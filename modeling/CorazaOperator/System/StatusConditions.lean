import CorazaOperator.System.PassRules
import CorazaOperator.Proof.Resolution

/-!
# The conditions a policy's status can hold

Every status write of a pass is one of three lists, each computed from the conditions of the policy
the pass holds: `setNotAccepted`'s (Accepted False, Programmed removed), the Engine-sync failure's
(Programmed False for EngineSyncFailed) and the success's (Accepted and Programmed True, both of the
policy's generation). `StatusInvariant` is what all three keep: no type twice; a True Programmed
beside a True Accepted of its generation; and beside a False Accepted, Programmed absent or False
for EngineSyncFailed. The last clause cannot be sharpened to "Programmed absent": a not-accepted
pass followed by an Engine-sync failure leaves Programmed False beside Accepted False.

The invariant holds of every stored condition list in every reachable world: passes interleaved
with any write of another client that does not touch a status, and any call failing. The passes
patch only what they hold, and what they hold was read from the store or from an update, which
keeps the stored status.
-/

namespace CorazaOperator

namespace Store

variable {s : Store} {key : ObjectKey} {policy : WAFPolicy}

theorem PolicyChange.conditions {c : Call} {old : Option WAFPolicy}
    (h : PolicyChange s key c old (some policy)) :
    (∃ cur, old = some cur ∧ policy.conditions = cur.conditions) ∨
      policy.conditions = [] ∨ ∃ k, c = .patchPolicyStatus k (some policy.conditions) := by
  cases h with
  | keep | update | markDeleted => exact .inl ⟨_, rfl, rfl⟩
  | patch _ hc => exact .inr (.inr ⟨_, hc⟩)
  | create => exact .inr (.inl rfl)

theorem exec_policies_conditions (c : Call) (h : (s.exec c).2.policies key = some policy) :
    (∃ cur, s.policies key = some cur ∧ policy.conditions = cur.conditions) ∨
      policy.conditions = [] ∨ ∃ k, c = .patchPolicyStatus k (some policy.conditions) :=
  (exec_policyChange_to_stored h).conditions

end Store

namespace Controller

open Apimeta Controllerutil

/-- The condition lists a pass leaves. -/
structure StatusInvariant (conditions : List Condition) : Prop where
  typesUnique : TypesUnique conditions
  accepted_of_programmed : ∀ p, findStatusCondition conditions "Programmed" = some p →
    p.status = .conditionTrue → ∃ a, findStatusCondition conditions "Accepted" = some a ∧
      a.status = .conditionTrue ∧ a.observedGeneration = p.observedGeneration
  syncFailed_of_notAccepted : ∀ a, findStatusCondition conditions "Accepted" = some a →
    a.status = .conditionFalse → ∀ p, findStatusCondition conditions "Programmed" = some p →
      p.status = .conditionFalse ∧ p.reason = "EngineSyncFailed"

theorem statusInvariant_nil : StatusInvariant [] where
  typesUnique := typesUnique_nil
  accepted_of_programmed _ h := Option.noConfusion h
  syncFailed_of_notAccepted _ h := Option.noConfusion h

/-- The status write a pass ends with, before the policy it is computed from. -/
inductive StatusWrite
  | notAccepted (now : Time) (reason message : String)
  | syncFailed (now : Time) (err : ReconcileError)
  | programmed (engineName : String) (result : OperationResult) (now : Time)

/-- The conditions a status write patches `policy`'s status to. -/
def StatusWrite.conditions (policy : WAFPolicy) : StatusWrite → List Condition
  | .notAccepted now reason message => notAcceptedConditions now policy reason message
  | .syncFailed now err => syncFailedConditions now policy err
  | .programmed engineName result now => programmedConditions policy engineName result now

section writes

variable {policy : WAFPolicy}

theorem find_syncFailedConditions (now : Time) (err : ReconcileError) :
    ∃ p, findStatusCondition (syncFailedConditions now policy err) "Programmed" = some p ∧
      p.status = .conditionFalse ∧ p.reason = "EngineSyncFailed" := by
  obtain ⟨p, hp, hs, hr, -⟩ := exists_findStatusCondition_setStatusCondition policy.conditions
    { type := "Programmed", status := .conditionFalse, observedGeneration := policy.generation,
      lastTransitionTime := now, reason := "EngineSyncFailed",
      message := "Failed to create/update Engine: " ++ err.message }
  exact ⟨p, hp, hs, hr⟩

theorem find_programmedConditions (engineName : String) (result : OperationResult) (now : Time) :
    (∃ a, findStatusCondition (programmedConditions policy engineName result now) "Accepted" = some a ∧
      a.status = .conditionTrue ∧ a.observedGeneration = policy.generation) ∧
    ∃ p, findStatusCondition (programmedConditions policy engineName result now) "Programmed" = some p ∧
      p.status = .conditionTrue ∧ p.observedGeneration = policy.generation := by
  constructor
  · obtain ⟨a, ha, hs, -, -, hg⟩ := exists_findStatusCondition_setStatusCondition policy.conditions
      { type := "Accepted", status := .conditionTrue, observedGeneration := policy.generation,
        lastTransitionTime := now, reason := "Accepted", message := "WAFPolicy is accepted" }
    refine ⟨a, ?_, hs, hg⟩
    rw [programmedConditions, findStatusCondition_setStatusCondition_ne _ _
      (show "Programmed" ≠ "Accepted" by decide)]
    exact ha
  · obtain ⟨p, hp, hs, -, -, hg⟩ := exists_findStatusCondition_setStatusCondition _
      { type := "Programmed", status := .conditionTrue, observedGeneration := policy.generation,
        lastTransitionTime := now, reason := "Programmed",
        message := "Engine \"" ++ engineName ++ "\" " ++ result.toString }
    exact ⟨p, hp, hs, hg⟩

variable (h : StatusInvariant policy.conditions)
include h

theorem StatusInvariant.notAccepted (now : Time) (reason message : String) :
    StatusInvariant (notAcceptedConditions now policy reason message) where
  typesUnique := (h.typesUnique.setStatusCondition _).removeStatusCondition _
  accepted_of_programmed _ hp := by
    simp [notAcceptedConditions, findStatusCondition_removeStatusCondition] at hp
  syncFailed_of_notAccepted _ _ _ _ hp := by
    simp [notAcceptedConditions, findStatusCondition_removeStatusCondition] at hp

theorem StatusInvariant.syncFailed (now : Time) (err : ReconcileError) :
    StatusInvariant (syncFailedConditions now policy err) where
  typesUnique := h.typesUnique.setStatusCondition _
  accepted_of_programmed p hp hstatus := by
    obtain ⟨q, hq, hs, -⟩ := @find_syncFailedConditions policy now err
    rw [hq] at hp
    cases hp
    exact absurd (hs.symm.trans hstatus) (by decide)
  syncFailed_of_notAccepted _ _ _ p hp := by
    obtain ⟨q, hq, hs, hr⟩ := @find_syncFailedConditions policy now err
    rw [hq] at hp
    cases hp
    exact ⟨hs, hr⟩

theorem StatusInvariant.programmed (engineName : String) (result : OperationResult) (now : Time) :
    StatusInvariant (programmedConditions policy engineName result now) where
  typesUnique := (h.typesUnique.setStatusCondition _).setStatusCondition _
  accepted_of_programmed p hp _ := by
    obtain ⟨⟨a, ha, has, hag⟩, q, hq, -, hqg⟩ := @find_programmedConditions policy
      engineName result now
    rw [hq] at hp
    cases hp
    exact ⟨a, ha, has, hag.trans hqg.symm⟩
  syncFailed_of_notAccepted a ha hfalse := by
    obtain ⟨⟨a', ha', has, -⟩, -⟩ := @find_programmedConditions policy engineName result now
    rw [ha'] at ha
    cases ha
    exact absurd (has.symm.trans hfalse) (by decide)

theorem StatusInvariant.statusWrite (w : StatusWrite) : StatusInvariant (w.conditions policy) := by
  cases w with
  | notAccepted now reason message => exact h.notAccepted now reason message
  | syncFailed now err => exact h.syncFailed now err
  | programmed engineName result now => exact h.programmed engineName result now

end writes

/-! ### The status writes of a pass -/

/-- A call that, if it patches a status, patches `policy`'s to a status write of `policy`. -/
def PatchesAsWrite (policy : WAFPolicy) (c : Call) : Prop :=
  ∀ key patch, c = .patchPolicyStatus key patch →
    key = policy.key ∧ ∃ w : StatusWrite, patch = mergePatch policy.conditions (w.conditions policy)

/-- The calls of a target step for `policy`: none returns a policy, and every status patch is a
status write of `policy`. -/
def TargetCall (policy : WAFPolicy) (c : Call) : Prop :=
  ¬c.ReturnsPolicy ∧ PatchesAsWrite policy c

section targetCalls

open Prog

variable (cfg : WAFPolicyTranslatorConfig) (now : Time) (policy : WAFPolicy)

theorem targetCall_patch (w : StatusWrite) :
    TargetCall policy (.patchPolicyStatus policy.key (mergePatch policy.conditions (w.conditions policy))) :=
  ⟨id, fun _ _ h => by cases h; exact ⟨rfl, w, rfl⟩⟩

theorem targetCall_of_not_patch {c : Call} (hc : ¬c.ReturnsPolicy)
    (hpatch : ∀ key patch, c ≠ .patchPolicyStatus key patch) : TargetCall policy c :=
  ⟨hc, fun key patch h => absurd h (hpatch key patch)⟩

theorem callsIn_notAccepted (result : Result) (reason message : String) :
    (notAccepted now policy result reason message).CallsIn (TargetCall policy) := by
  simp only [notAccepted, setNotAccepted, patchStatus, call_bind, ret_bind, callsIn_call]
  refine ⟨targetCall_patch policy (.notAccepted now reason message), fun r => ?_⟩
  cases r <;> trivial

theorem callsIn_ensureEngine (labels : List (String × String)) :
    (ensureEngine cfg now policy labels).CallsIn (TargetCall policy) := by
  have hengine (c : Call) (hc : c = .getEngine (engineFor policy).key ∨ (∃ e, c = .createEngine e) ∨
      ∃ e, c = .updateEngine e) : TargetCall policy c := by
    refine targetCall_of_not_patch policy ?_ ?_ <;> rcases hc with rfl | ⟨e, rfl⟩ | ⟨e, rfl⟩ <;>
      simp [Call.ReturnsPolicy]
  refine CallsIn.bind ?_ fun res => ?_
  · simp only [createOrUpdateEngine, getEngine, createEngine, updateEngine, call_bind, ret_bind,
      callsIn_call]
    refine ⟨hengine _ (.inl rfl), fun r => ?_⟩
    rcases r with err | existing
    · dsimp only
      split_ifs
      · split
        · trivial
        · exact ⟨hengine _ (.inr (.inl ⟨_, rfl⟩)), fun r => by cases r <;> trivial⟩
      · trivial
    · dsimp only
      split
      · trivial
      · split_ifs
        · trivial
        · exact ⟨hengine _ (.inr (.inr ⟨_, rfl⟩)), fun r => by cases r <;> trivial⟩
  · cases res with
    | error err =>
      exact CallsIn.bind ⟨targetCall_patch policy (.syncFailed now err), fun _ => trivial⟩
        fun _ => trivial
    | ok result =>
      refine CallsIn.bind
        ⟨targetCall_patch policy (.programmed (engineFor policy).name result now), fun _ => trivial⟩
        fun r => ?_
      cases r <;> trivial

end targetCalls

/-! ### Passes in the world -/

open World Prog

/-- What the status discipline asks of a call after the history `σ`: a status patch is a status
write of the policy the pass holds. -/
def StatusDiscipline (σ : List Event) (c : Call) : Prop :=
  ∀ key patch, c = .patchPolicyStatus key patch →
    ∃ policy, heldPolicy σ = some policy ∧ PatchesAsWrite policy c

theorem statusDiscipline_of_not_patch (σ : List Event) {c : Call}
    (hc : ∀ key patch, c ≠ .patchPolicyStatus key patch) : StatusDiscipline σ c :=
  fun key patch h => absurd h (hc key patch)

theorem wp_reconcileTarget_statusDiscipline (cfg : WAFPolicyTranslatorConfig) (now : Time)
    (policy : WAFPolicy) {σ : List Event} (hσ : heldPolicy σ = some policy) :
    WP StatusDiscipline (reconcileTarget cfg now policy) σ fun _ _ => True := by
  have hcalls {p : Prog (Result × Option ReconcileError)} (hp : p.CallsIn (TargetCall policy))
      {σ' : List Event} (hσ' : heldPolicy σ' = some policy) : WP StatusDiscipline p σ' fun _ _ => True :=
    (hp.wp (I := fun σ' => heldPolicy σ' = some policy) (fun _ _ hσ' hc _ _ _ => ⟨policy, hσ', hc.2⟩)
      (fun _ _ r hσ' hc => (heldPolicy_of_not_returnsPolicy hc.1 r).trans hσ') hσ').mono
      fun _ _ _ => trivial
  exact wp_reconcileTarget_of cfg now (I := fun σ => heldPolicy σ = some policy)
    (fun σ _ _ hσ => ⟨statusDiscipline_of_not_patch σ fun _ _ h => Call.noConfusion h,
      fun r => (heldPolicy_of_not_returnsPolicy id r).trans hσ⟩)
    (fun _ _ _ _ hσ => hcalls (callsIn_notAccepted now policy _ _ _) hσ)
    (fun _ labels hσ => hcalls (callsIn_ensureEngine cfg now policy labels) hσ) hσ

theorem callsIn_handleDeletion (policy : WAFPolicy) :
    (handleDeletion policy).CallsIn fun c => ∀ key patch, c ≠ .patchPolicyStatus key patch := by
  unfold handleDeletion
  split_ifs
  · simp only [updatePolicy, call_bind, ret_bind, callsIn_call]
    exact ⟨fun _ _ h => Call.noConfusion h, fun r => by cases r <;> trivial⟩
  · trivial

theorem wp_reconcile_of (cfg : WAFPolicyTranslatorConfig) (now : Time) {A : List Event → Call → Prop}
    (hother : ∀ σ c, (∀ key patch, c ≠ .patchPolicyStatus key patch) → A σ c)
    (htarget : ∀ σ policy, heldPolicy σ = some policy →
      WP A (reconcileTarget cfg now policy) σ fun _ _ => True)
    (key : ObjectKey) : WP A (reconcile cfg now key) [] fun _ _ => True := by
  simp only [reconcile, getPolicy, wp_bind, wp_call, wp_ret]
  refine ⟨hother _ _ fun _ _ h => Call.noConfusion h, fun r _ => ?_⟩
  cases r with
  | error err =>
    dsimp only
    split_ifs <;> trivial
  | ok policy =>
    dsimp only
    split_ifs
    · exact ((callsIn_handleDeletion policy).wp (I := fun _ => True)
        (fun σ _ _ hc => hother σ _ hc) (fun _ _ _ _ _ => trivial) trivial).mono fun _ _ _ => trivial
    · exact htarget _ _ (heldPolicy_getPolicy _ _)
    · simp only [updatePolicy, wp_bind, wp_call, wp_ret]
      refine ⟨hother _ _ fun _ _ h => Call.noConfusion h, fun r _ => ?_⟩
      cases r with
      | error err => trivial
      | ok p => exact htarget _ _ (heldPolicy_updatePolicy _ _)

/-- Every status patch of a pass is a status write of the policy it holds. -/
theorem wp_reconcile_statusDiscipline (cfg : WAFPolicyTranslatorConfig) (now : Time)
    (key : ObjectKey) : WP StatusDiscipline (reconcile cfg now key) [] fun _ _ => True :=
  wp_reconcile_of cfg now (fun σ _ hc => statusDiscipline_of_not_patch σ hc)
    (fun _ policy hσ => wp_reconcileTarget_statusDiscipline cfg now policy hσ) key

/-- A write of another client that is not a status write. -/
def NotStatusWrite (c : Call) : Prop := ∀ key patch, c ≠ .patchPolicyStatus key patch

theorem mergePatch_eq_some {base conditions patched : List Condition}
    (h : mergePatch base conditions = some patched) : patched = conditions := by
  unfold mergePatch at h
  split_ifs at h
  exact (Option.some.inj h).symm

theorem statusInvariant_exec {s : Store} {c : Call}
    (hstored : ∀ key policy, s.policies key = some policy → StatusInvariant policy.conditions)
    (hpatch : ∀ key conditions, c = .patchPolicyStatus key (some conditions) →
      StatusInvariant conditions)
    {key : ObjectKey} {policy : WAFPolicy} (h : (s.exec c).2.policies key = some policy) :
    StatusInvariant policy.conditions := by
  rcases s.exec_policies_conditions c h with ⟨cur, hcur, hc⟩ | hnil | ⟨k, rfl⟩
  · exact hc ▸ hstored _ _ hcur
  · exact hnil ▸ statusInvariant_nil
  · exact hpatch k _ rfl

/-- What every reachable world keeps: the store is well formed, the pass keeps the status
discipline, and every condition list stored or held satisfies the status invariant. -/
structure StatusWorld (w : World (Result × Option ReconcileError)) : Prop where
  wellFormed : w.store.WellFormed
  disciplined : Disciplined StatusDiscipline w
  stored : ∀ key policy, w.store.policies key = some policy → StatusInvariant policy.conditions
  held : ∀ p σ policy, w.pass = some (p, σ) → heldPolicy σ = some policy →
    StatusInvariant policy.conditions

theorem StatusWorld.step {cfg : WAFPolicyTranslatorConfig} {w w' : World (Result × Option ReconcileError)}
    (h : StatusWorld w) (hs : Step (ReconcileStarts cfg) NotStatusWrite w w') : StatusWorld w' := by
  have hstart (p) (hp : ReconcileStarts cfg p) : WP StatusDiscipline p [] fun _ _ => True := by
    obtain ⟨now, key, rfl⟩ := hp
    exact wp_reconcile_statusDiscipline cfg now key
  refine ⟨hs.wellFormed h.wellFormed, hs.disciplined hstart h.wellFormed h.disciplined, ?_, ?_⟩
  · cases hs with
    | call =>
      refine fun _ _ => statusInvariant_exec h.stored fun k conditions hc => ?_
      obtain ⟨policy, hheld, hwrite⟩ := h.disciplined.allowed k _ hc
      obtain ⟨-, w, hw⟩ := hwrite k _ hc
      rw [mergePatch_eq_some hw.symm]
      exact (h.held _ _ policy rfl hheld).statusWrite w
    | foreign hc => exact fun _ _ => statusInvariant_exec h.stored fun k _ h' => absurd h' (hc k _)
    | _ => exact h.stored
  · cases hs with
    | start => intro p σ policy hpass hheld; cases hpass; cases hheld
    | call =>
      intro p σ policy hpass hheld
      cases hpass
      rcases heldPolicy_cons hheld with hev | ⟨-, hheld'⟩
      · obtain ⟨cur, hcur, -, hc⟩ := (Store.exec_reply_policy h.wellFormed _ hev).1
        exact hc ▸ h.stored _ cur hcur
      · exact h.held _ _ policy rfl hheld'
    | fail err =>
      intro p σ policy hpass hheld
      cases hpass
      rw [heldPolicy_error] at hheld
      exact h.held _ _ policy rfl hheld
    | finish => intro p σ policy hpass; cases hpass
    | foreign => exact h.held

theorem statusWorld_reachable {cfg : WAFPolicyTranslatorConfig} {s : Store} (hs : s.WellFormed)
    (hinit : ∀ key policy, s.policies key = some policy → StatusInvariant policy.conditions)
    {w : World (Result × Option ReconcileError)}
    (hw : Reachable (ReconcileStarts cfg) NotStatusWrite ⟨s, none⟩ w) : StatusWorld w := by
  induction hw with
  | refl => exact ⟨hs, fun _ _ h => Option.noConfusion h, hinit, fun _ _ _ h => Option.noConfusion h⟩
  | tail _ hstep ih => exact ih.step hstep

/-- In every world reachable from a well-formed store whose condition lists satisfy the status
invariant, with no pass in progress, by passes of `Reconcile` interleaved with any write of another
client that is not a status write and with any call failing, every stored condition list satisfies
it: no type twice, a True Programmed beside a True Accepted of its generation, and beside a False
Accepted a Programmed that is absent or False for EngineSyncFailed. -/
theorem reconcile_status_invariant (cfg : WAFPolicyTranslatorConfig) {s : Store}
    (hs : s.WellFormed)
    (hinit : ∀ key policy, s.policies key = some policy → StatusInvariant policy.conditions)
    {w : World (Result × Option ReconcileError)}
    (hw : Reachable (ReconcileStarts cfg) NotStatusWrite ⟨s, none⟩ w) {key : ObjectKey}
    {policy : WAFPolicy} (hp : w.store.policies key = some policy) :
    StatusInvariant policy.conditions :=
  (statusWorld_reachable hs hinit hw).stored key policy hp

theorem serviceParentStore_statusInvariant (key : ObjectKey) (policy : WAFPolicy)
    (h : serviceParentStore.policies key = some policy) : StatusInvariant policy.conditions := by
  simp only [serviceParentStore] at h
  split_ifs at h
  cases h
  exact statusInvariant_nil

/-- After two passes of `serviceParentStore`'s policy, the conditions the passes wrote keep the
invariant. -/
theorem reconcile_status_invariant_serviceParent :
    ∃ policy, ((reconcile testTranslatorConfig 0 serviceParentPolicy.key).run servedStore
        []).2.1.policies serviceParentPolicy.key = some policy ∧
      policy.conditions ≠ [] ∧ StatusInvariant policy.conditions := by
  have hw : Reachable (ReconcileStarts testTranslatorConfig) NotStatusWrite ⟨serviceParentStore, none⟩
      ⟨((reconcile testTranslatorConfig 0 serviceParentPolicy.key).run servedStore []).2.1, none⟩ :=
    (reachable_pass serviceParentStore ⟨0, serviceParentPolicy.key, rfl⟩).trans
      (reachable_pass servedStore ⟨0, serviceParentPolicy.key, rfl⟩)
  have hp : ((reconcile testTranslatorConfig 0 serviceParentPolicy.key).run servedStore
      []).2.1.policies serviceParentPolicy.key = some _ := rfl
  exact ⟨_, hp, by decide, reconcile_status_invariant testTranslatorConfig wellFormed_serviceParentStore
    serviceParentStore_statusInvariant hw hp⟩

/-! ### Programmed False beside Accepted False -/

/-- The policy `waf` of `default` on the Gateway `gw`, new: no finalizer and no conditions. -/
def newPolicy : WAFPolicy where
  «namespace» := "default"
  name := "waf"
  uid := "waf-uid"
  resourceVersion := 1
  generation := 1
  spec := { targetRef := { kind := "Gateway", name := "gw" } }

def newPolicyStore : Store where
  policies key := if key = newPolicy.key then some newPolicy else none
  engines _ := none
  objects _ _ := none
  namespaced _ := true
  revision := 2

def laterGateway : Unstructured where
  gvk := gatewayGVK
  «namespace» := "default"
  name := "gw"

/-- An Engine at the policy's Engine key that another object controls, as another client creates
it. -/
def laterEngine : Engine := priorEngine [foreignController]

/-- The store after a first pass that finds no Gateway, the creation of the Gateway and of the
foreign Engine, and a second pass. -/
def notAcceptedThenSyncFailed : Store :=
  let first := ((reconcile testTranslatorConfig 0 newPolicy.key).run newPolicyStore []).2.1
  let created := ((first.exec (.create laterGateway)).2.exec (.createEngine laterEngine)).2
  ((reconcile testTranslatorConfig 1 newPolicy.key).run created []).2.1

/-- A not-accepted pass followed by an Engine-sync failure leaves Programmed False beside
Accepted False, in a world the system reaches. -/
theorem reconcile_programmed_beside_not_accepted :
    Reachable (ReconcileStarts testTranslatorConfig) NotStatusWrite ⟨newPolicyStore, none⟩
      ⟨notAcceptedThenSyncFailed, none⟩ ∧
    (notAcceptedThenSyncFailed.policies newPolicy.key).map
        (fun p => p.conditions.map fun c => (c.type, c.status, c.reason)) =
      some [("Accepted", .conditionFalse, "TargetNotFound"),
        ("Programmed", .conditionFalse, "EngineSyncFailed")] :=
  ⟨(reachable_pass _ ⟨0, _, rfl⟩).trans <|
    ((Reachable.single (Step.foreign fun _ _ h => Call.noConfusion h)).tail
      (Step.foreign fun _ _ h => Call.noConfusion h)).trans (reachable_pass _ ⟨1, _, rfl⟩),
   rfl⟩

end Controller

end CorazaOperator
