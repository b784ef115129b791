import Mathlib.Data.List.Nodup

/-!
# Status conditions

`metav1.Condition` and the three apimachinery helpers every condition the operator writes goes
through: `apimeta.SetStatusCondition`, `apimeta.RemoveStatusCondition` and
`apimeta.FindStatusCondition`. A condition list is read by type, and `find` returns the first
condition of a type; the lemmas here say how one `set` or `remove` moves what `find` returns and that
neither brings in a second condition of a type. The results on the conditions the operator leaves
are proved from them, never from the recursion of `setStatusCondition`.

Timestamps are seconds, the precision a serialized condition keeps. `SetStatusCondition` replaces a
zero `lastTransitionTime` by the current time; every caller in the operator stamps `metav1.Now()`, so
that default never applies and is left out.
-/

namespace CorazaOperator

/-- Seconds, the precision a serialized `metav1.Time` keeps. -/
abbrev Time := Nat

/-- `metav1.ConditionStatus`. -/
inductive ConditionStatus
  | conditionTrue
  | conditionFalse
  | conditionUnknown
deriving DecidableEq, Repr

/-- `metav1.Condition`. -/
structure Condition where
  type : String
  status : ConditionStatus
  observedGeneration : Int
  lastTransitionTime : Time
  reason : String
  message : String
deriving DecidableEq, Repr

namespace Apimeta

/-- `apimeta.FindStatusCondition`: the first condition of a type. -/
def findStatusCondition (conditions : List Condition) (conditionType : String) : Option Condition :=
  conditions.find? (fun c => c.type = conditionType)

/-- What `SetStatusCondition` makes of an existing condition of the new one's type: status, reason,
message and generation are taken over, the transition time only when the status changes. -/
def mergeCondition (existing new : Condition) : Condition :=
  { existing with
    status := new.status
    lastTransitionTime :=
      if existing.status = new.status then existing.lastTransitionTime else new.lastTransitionTime
    reason := new.reason
    message := new.message
    observedGeneration := new.observedGeneration }

/-- `apimeta.SetStatusCondition`: merge into the first condition of the new one's type, or append. -/
def setStatusCondition : List Condition → Condition → List Condition
  | [], new => [new]
  | c :: cs, new => if c.type = new.type then mergeCondition c new :: cs else c :: setStatusCondition cs new

/-- `apimeta.RemoveStatusCondition`. -/
def removeStatusCondition (conditions : List Condition) (conditionType : String) : List Condition :=
  conditions.filter (fun c => c.type ≠ conditionType)

/-- No two conditions of a list share a type: the `+listMapKey=type` contract of a status list. -/
def TypesUnique (conditions : List Condition) : Prop :=
  (conditions.map Condition.type).Nodup

@[simp] theorem mergeCondition_type (existing new : Condition) :
    (mergeCondition existing new).type = existing.type := rfl

@[simp] theorem mergeCondition_status (existing new : Condition) :
    (mergeCondition existing new).status = new.status := rfl

@[simp] theorem mergeCondition_reason (existing new : Condition) :
    (mergeCondition existing new).reason = new.reason := rfl

@[simp] theorem mergeCondition_message (existing new : Condition) :
    (mergeCondition existing new).message = new.message := rfl

@[simp] theorem mergeCondition_observedGeneration (existing new : Condition) :
    (mergeCondition existing new).observedGeneration = new.observedGeneration := rfl

@[simp] theorem findStatusCondition_nil (conditionType : String) :
    findStatusCondition [] conditionType = none := rfl

/-! ### What `find` returns after a `set` or a `remove` -/

theorem findStatusCondition_setStatusCondition (conditions : List Condition) (new : Condition)
    (conditionType : String) :
    findStatusCondition (setStatusCondition conditions new) conditionType =
      if new.type = conditionType then
        some ((findStatusCondition conditions new.type).elim new (mergeCondition · new))
      else findStatusCondition conditions conditionType := by
  induction conditions with
  | nil => by_cases h : new.type = conditionType <;> simp [setStatusCondition, findStatusCondition, h]
  | cons c cs ih =>
    unfold findStatusCondition at ih ⊢
    by_cases hc : c.type = new.type
    · by_cases h : new.type = conditionType <;> simp [setStatusCondition, hc, h]
    · by_cases h : c.type = conditionType
      · have hne : new.type ≠ conditionType := fun h' => hc (h.trans h'.symm)
        simp only [setStatusCondition, if_neg hc]
        simp [h, hne]
      · simp [setStatusCondition, hc, h, ih]

theorem findStatusCondition_setStatusCondition_self (conditions : List Condition) (new : Condition) :
    findStatusCondition (setStatusCondition conditions new) new.type =
      some ((findStatusCondition conditions new.type).elim new (mergeCondition · new)) := by
  simp [findStatusCondition_setStatusCondition]

theorem exists_findStatusCondition_setStatusCondition (conditions : List Condition) (new : Condition) :
    ∃ c, findStatusCondition (setStatusCondition conditions new) new.type = some c ∧
      c.status = new.status ∧ c.reason = new.reason ∧ c.message = new.message ∧
      c.observedGeneration = new.observedGeneration := by
  rw [findStatusCondition_setStatusCondition_self]
  cases findStatusCondition conditions new.type <;> simp

theorem findStatusCondition_setStatusCondition_ne (conditions : List Condition) (new : Condition)
    {conditionType : String} (h : new.type ≠ conditionType) :
    findStatusCondition (setStatusCondition conditions new) conditionType =
      findStatusCondition conditions conditionType := by
  simp [findStatusCondition_setStatusCondition, h]

theorem findStatusCondition_removeStatusCondition (conditions : List Condition)
    (removed conditionType : String) :
    findStatusCondition (removeStatusCondition conditions removed) conditionType =
      if removed = conditionType then none else findStatusCondition conditions conditionType := by
  unfold findStatusCondition removeStatusCondition
  rw [List.find?_filter]
  split_ifs with h
  · subst h
    simp
  · congr 1
    funext c
    by_cases hc : c.type = conditionType
    · simp [hc, Ne.symm h]
    · simp [hc]

theorem type_of_findStatusCondition {conditions : List Condition} {conditionType : String}
    {c : Condition} (h : findStatusCondition conditions conditionType = some c) :
    c.type = conditionType := by
  simpa using List.find?_some h

/-! ### Types stay unique -/

theorem map_type_setStatusCondition (conditions : List Condition) (new : Condition) :
    (setStatusCondition conditions new).map Condition.type =
      if new.type ∈ conditions.map Condition.type then conditions.map Condition.type
      else conditions.map Condition.type ++ [new.type] := by
  induction conditions with
  | nil => simp [setStatusCondition]
  | cons c cs ih =>
    by_cases hc : c.type = new.type
    · simp [setStatusCondition, hc]
    · by_cases hm : new.type ∈ cs.map Condition.type
      · simp [setStatusCondition, hc, ih, hm]
      · simp only [List.map_cons, List.mem_cons, setStatusCondition, hc, if_false, ih] at hm ⊢
        simp [hm, Ne.symm hc]

theorem TypesUnique.setStatusCondition {conditions : List Condition} (h : TypesUnique conditions)
    (new : Condition) : TypesUnique (setStatusCondition conditions new) := by
  unfold TypesUnique at h ⊢
  rw [map_type_setStatusCondition]
  split_ifs with hm
  · exact h
  · exact h.append (List.nodup_singleton _) (by simpa using hm)

theorem TypesUnique.removeStatusCondition {conditions : List Condition} (h : TypesUnique conditions)
    (conditionType : String) : TypesUnique (removeStatusCondition conditions conditionType) :=
  h.sublist ((List.filter_sublist _).map _)

theorem typesUnique_nil : TypesUnique [] := List.nodup_nil

/-! ### `set` as a fixed point

Setting a condition that merges into the one already there changes nothing that the merge does not
change: under any view `g` the merge leaves alone, the list reads the same. With the identity for
`g` this is what makes a second identical pass write no condition. -/

theorem map_setStatusCondition_of_merge {β : Type} (g : Condition → β) {conditions : List Condition}
    {new c : Condition} (hfind : findStatusCondition conditions new.type = some c)
    (hg : g (mergeCondition c new) = g c) :
    (setStatusCondition conditions new).map g = conditions.map g := by
  induction conditions with
  | nil => simp at hfind
  | cons d ds ih =>
    unfold findStatusCondition at hfind ih
    by_cases hd : d.type = new.type
    · simp only [List.find?_cons, hd, decide_True, Option.some.injEq] at hfind
      subst hfind
      simp [setStatusCondition, hd, hg]
    · simp only [List.find?_cons, hd, decide_False] at hfind
      simp [setStatusCondition, hd, ih hfind]

theorem setStatusCondition_eq_self {conditions : List Condition} {new c : Condition}
    (hfind : findStatusCondition conditions new.type = some c) (hmerge : mergeCondition c new = c) :
    setStatusCondition conditions new = conditions := by
  simpa using map_setStatusCondition_of_merge id hfind hmerge

end Apimeta

end CorazaOperator
