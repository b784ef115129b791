import CorazaOperator.Controller.Utils

/-!
# Ready, Degraded, Progressing

The three helpers `setStatusConditionDegraded`, `setStatusProgressing` and `setStatusReady` are meant
to keep exactly one of the conditions Ready, Degraded and Progressing True. Each helper's effect on
the three True flags is one lemma below, and a run of helper calls is folded from those.

`setStatusConditionDegraded` removes Progressing and `setStatusReady` removes both others, but
`setStatusProgressing` sets Ready False and leaves Degraded as it was. A Degraded resource that
starts progressing again is therefore Degraded and Progressing at once; `readiness_run` says this
is the only way the three-way invariant breaks.
-/

namespace CorazaOperator

namespace Controller

open Apimeta

/-- A condition of the type is present with status True. -/
def IsTrue (conditions : List Condition) (conditionType : String) : Bool :=
  (findStatusCondition conditions conditionType).any (·.status = .conditionTrue)

variable (status : ConditionStatus) (conditions : List Condition) (generation : Int)
  (reason message : String) (now : Time)

theorem findStatusCondition_setCondition_status (conditionType : String) :
    ((findStatusCondition (setCondition status conditions generation conditionType reason message
      now) conditionType).map Condition.status) = some status := by
  unfold setCondition
  rw [findStatusCondition_setStatusCondition_self]
  cases findStatusCondition conditions conditionType <;> rfl

theorem isTrue_setCondition_self (conditionType : String) :
    IsTrue (setCondition status conditions generation conditionType reason message now)
      conditionType = decide (status = .conditionTrue) := by
  have h := findStatusCondition_setCondition_status status conditions generation reason message now
    conditionType
  unfold IsTrue
  cases hc : findStatusCondition (setCondition status conditions generation conditionType reason
    message now) conditionType <;> simp_all

theorem isTrue_setCondition_ne {conditionType conditionType' : String}
    (h : conditionType ≠ conditionType') :
    IsTrue (setCondition status conditions generation conditionType reason message now)
      conditionType' = IsTrue conditions conditionType' := by
  simp only [IsTrue, setCondition]
  rw [findStatusCondition_setStatusCondition_ne _ _ h]

theorem isTrue_removeStatusCondition (removed conditionType : String) :
    IsTrue (removeStatusCondition conditions removed) conditionType =
      (removed ≠ conditionType && IsTrue conditions conditionType) := by
  unfold IsTrue
  rw [findStatusCondition_removeStatusCondition]
  by_cases h : removed = conditionType <;> simp [h]

/-- The True flags of Ready, Degraded and Progressing. -/
def readiness (conditions : List Condition) : Bool × Bool × Bool :=
  (IsTrue conditions "Ready", IsTrue conditions "Degraded", IsTrue conditions "Progressing")

/-! ### One helper call -/

theorem readiness_setStatusConditionDegraded :
    readiness (setStatusConditionDegraded conditions generation reason message now) =
      (false, true, false) := by
  simp [readiness, setStatusConditionDegraded, setConditionTrue, setConditionFalse,
    isTrue_removeStatusCondition, isTrue_setCondition_self, isTrue_setCondition_ne]

theorem readiness_setStatusProgressing :
    readiness (setStatusProgressing conditions generation reason message now) =
      (false, IsTrue conditions "Degraded", true) := by
  simp [readiness, setStatusProgressing, setConditionTrue, setConditionFalse,
    isTrue_setCondition_self, isTrue_setCondition_ne]

theorem readiness_setStatusReady :
    readiness (setStatusReady conditions generation reason message now) = (true, false, false) := by
  simp [readiness, setStatusReady, setConditionTrue, isTrue_removeStatusCondition,
    isTrue_setCondition_self, isTrue_setCondition_ne]

/-! ### Runs of helper calls -/

/-- A call of one of the three helpers, with its arguments. -/
inductive ReadinessCall
  | degraded (generation : Int) (reason message : String) (now : Time)
  | progressing (generation : Int) (reason message : String) (now : Time)
  | ready (generation : Int) (reason message : String) (now : Time)

def ReadinessCall.apply (conditions : List Condition) : ReadinessCall → List Condition
  | .degraded g r m t => setStatusConditionDegraded conditions g r m t
  | .progressing g r m t => setStatusProgressing conditions g r m t
  | .ready g r m t => setStatusReady conditions g r m t

/-- The flags a call leaves, given the flags before it. -/
def ReadinessCall.next (flags : Bool × Bool × Bool) : ReadinessCall → Bool × Bool × Bool
  | .degraded .. => (false, true, false)
  | .progressing .. => (false, flags.2.1, true)
  | .ready .. => (true, false, false)

/-- The conditions a run of calls leaves, from an empty list. -/
def runReadiness (calls : List ReadinessCall) : List Condition :=
  calls.foldl ReadinessCall.apply []

theorem readiness_apply (call : ReadinessCall) :
    readiness (call.apply conditions) = call.next (readiness conditions) := by
  cases call with
  | degraded => exact readiness_setStatusConditionDegraded ..
  | progressing => exact readiness_setStatusProgressing ..
  | ready => exact readiness_setStatusReady ..

theorem typesUnique_apply {conditions : List Condition} (h : TypesUnique conditions)
    (call : ReadinessCall) : TypesUnique (call.apply conditions) := by
  cases call <;>
    simp only [ReadinessCall.apply, setStatusConditionDegraded, setStatusProgressing,
      setStatusReady, setConditionTrue, setConditionFalse, setCondition] <;>
    repeat first
      | apply TypesUnique.removeStatusCondition
      | apply TypesUnique.setStatusCondition
      | exact h

theorem readiness_runReadiness (calls : List ReadinessCall) :
    readiness (runReadiness calls) = calls.foldl ReadinessCall.next (false, false, false) := by
  unfold runReadiness
  suffices ∀ cs, readiness (calls.foldl ReadinessCall.apply cs) =
      calls.foldl ReadinessCall.next (readiness cs) from this []
  induction calls with
  | nil => intro cs; rfl
  | cons call calls ih => intro cs; simp [ih, readiness_apply]

theorem typesUnique_runReadiness (calls : List ReadinessCall) :
    TypesUnique (runReadiness calls) := by
  unfold runReadiness
  suffices ∀ cs, TypesUnique cs → TypesUnique (calls.foldl ReadinessCall.apply cs) from
    this [] typesUnique_nil
  induction calls with
  | nil => exact fun _ h => h
  | cons call calls ih => exact fun cs h => ih _ (typesUnique_apply h call)

/-- Across every run the last call's condition is True and its siblings are not, except Degraded
after a Progressing call that found it True. -/
theorem readiness_run (calls : List ReadinessCall) (call : ReadinessCall) :
    readiness (runReadiness (calls ++ [call])) =
      call.next (readiness (runReadiness calls)) := by
  rw [readiness_runReadiness, readiness_runReadiness, List.foldl_append]
  rfl

/-- `setStatusProgressing` after `setStatusConditionDegraded`, from an empty list: both Degraded and
Progressing are True. -/
theorem setStatusProgressing_after_degraded :
    readiness (setStatusProgressing (setStatusConditionDegraded [] 1 "Failed" "" 0) 1 "Retrying" "" 0)
      = (false, true, true) := by
  decide

end Controller

end CorazaOperator
