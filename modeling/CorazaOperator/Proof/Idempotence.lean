import CorazaOperator.Proof.EngineSync

/-!
# Passes converge

Reconciliation is level-triggered: with no other writer, a pass after a successful one has nothing
to do. `Settled` names the state a successful pass leaves: the policy live with its finalizer, its
target resolving, its Engine the one the Engine step would write, and Accepted and Programmed True
at the policy's generation. A pass from a settled state writes no Engine and reports `unchanged`;
its only write is the status patch, which changes the Programmed message at most, since
`SetStatusCondition` keeps the transition time of a condition whose status stays. After that second
pass the message is `unchanged` too and every later pass is the identity on the store.

The three fixed points this rests on are `upsertOwnerRef_idem` for the owner references,
`setControllerReference` accepting the policy's own reference, and `setStatusCondition_eq_self`.
-/

namespace CorazaOperator

namespace Controller

open Apimeta Controllerutil

/-- What a pass may not change of a condition: all but the message. -/
def Condition.stamp (c : Condition) : String × ConditionStatus × String × Int × Time :=
  (c.type, c.status, c.reason, c.observedGeneration, c.lastTransitionTime)

/-- The conditions a successful Engine step leaves, read through `find`: Accepted and Programmed
True at the policy's generation, Programmed reporting `result`. -/
def ProgrammedAs (policy : WAFPolicy) (result : OperationResult) : Prop :=
  (∃ c, findStatusCondition policy.conditions "Accepted" = some c ∧ c.status = .conditionTrue ∧
    c.reason = "Accepted" ∧ c.message = "WAFPolicy is accepted" ∧
    c.observedGeneration = policy.generation) ∧
  (∃ c, findStatusCondition policy.conditions "Programmed" = some c ∧ c.status = .conditionTrue ∧
    c.reason = "Programmed" ∧
    c.message = "Engine \"" ++ (engineFor policy).name ++ "\" " ++ result.toString ∧
    c.observedGeneration = policy.generation)

section conditions

variable {policy : WAFPolicy} {result : OperationResult}

theorem programmedAs_of_programmedConditions {policy' : WAFPolicy} (now : Time)
    (hconditions : policy'.conditions =
      programmedConditions policy (engineFor policy).name result now)
    (hgeneration : policy'.generation = policy.generation) (hname : policy'.name = policy.name) :
    ProgrammedAs policy' result := by
  have hengine : (engineFor policy').name = (engineFor policy).name := by
    simp only [engineFor, hname]
  unfold ProgrammedAs programmedConditions at *
  rw [hconditions, hgeneration, hengine,
    findStatusCondition_setStatusCondition_ne _ _ (by decide : "Programmed" ≠ "Accepted")]
  exact ⟨exists_findStatusCondition_setStatusCondition _ _,
    exists_findStatusCondition_setStatusCondition _ _⟩

theorem mergeCondition_eq_self {c new : Condition} (hstatus : c.status = new.status)
    (hreason : c.reason = new.reason) (hmessage : c.message = new.message)
    (hgeneration : c.observedGeneration = new.observedGeneration) : mergeCondition c new = c := by
  cases c
  simp_all [mergeCondition]

theorem setAccepted_eq_self (h : ProgrammedAs policy result) (now : Time) :
    setStatusCondition policy.conditions
      { type := "Accepted", status := .conditionTrue, observedGeneration := policy.generation,
        lastTransitionTime := now, reason := "Accepted", message := "WAFPolicy is accepted" } =
      policy.conditions := by
  obtain ⟨⟨c, hc, hs, hr, hm, hg⟩, -⟩ := h
  exact setStatusCondition_eq_self hc (mergeCondition_eq_self hs hr hm hg)

theorem programmedConditions_stamp (h : ProgrammedAs policy result) (result' : OperationResult)
    (now : Time) :
    (programmedConditions policy (engineFor policy).name result' now).map Condition.stamp =
      policy.conditions.map Condition.stamp := by
  unfold programmedConditions
  rw [setAccepted_eq_self h]
  obtain ⟨-, c, hc, hs, hr, -, hg⟩ := h
  exact map_setStatusCondition_of_merge _ hc (by simp [Condition.stamp, mergeCondition, hs, hr, hg,
    type_of_findStatusCondition hc])

theorem programmedConditions_eq_self (h : ProgrammedAs policy result) (now : Time) :
    programmedConditions policy (engineFor policy).name result now = policy.conditions := by
  unfold programmedConditions
  rw [setAccepted_eq_self h]
  obtain ⟨-, c, hc, hs, hr, hm, hg⟩ := h
  exact setStatusCondition_eq_self hc (mergeCondition_eq_self hs hr hm hg)

end conditions

/-! ### The Engine the policy owns -/

section owned

variable {cfg : WAFPolicyTranslatorConfig} {policy : WAFPolicy} {labels : List (String × String)}

theorem referSameObject_policyOwner (policy : WAFPolicy) :
    referSameObject (policyOwner policy).controllerRef (policyOwner policy).controllerRef = true :=
  Owner.referSameObject_controllerRef _
    (show (parseGroupVersion "waf.k8s.coraza.io/v1alpha1").isSome = true by decide)

theorem ownedEngine_idem (e : Engine) (rv : Nat) :
    ownedEngine cfg policy labels { ownedEngine cfg policy labels e with resourceVersion := rv } =
      { ownedEngine cfg policy labels e with resourceVersion := rv } := by
  simp only [ownedEngine, upsertOwnerRef_idem (referSameObject_policyOwner policy)]

theorem not_controlledByOther_upsert {refs : List OwnerReference}
    (h : ¬ControlledByOther policy refs) :
    ¬ControlledByOther policy (upsertOwnerRef (policyOwner policy).controllerRef refs) := by
  rintro ⟨c, hc, hne⟩
  rcases getControllerOf_upsertOwnerRef rfl refs hc with hold | rfl
  · exact h ⟨c, hold, hne⟩
  · rw [referSameObject_policyOwner] at hne
    cases hne

theorem ownedEngine_congr {policy' : WAFPolicy} (hspec : policy'.spec = policy.spec)
    (howner : policyOwner policy' = policyOwner policy) (e : Engine) :
    ownedEngine cfg policy' labels e = ownedEngine cfg policy labels e := by
  simp only [ownedEngine, howner, engineSpec, hspec]

end owned

/-! ### Settled states -/

/-- A store in which the policy is settled: stored live with its finalizer, its target resolving to
`g`, its Engine the owned one, and programmed with `result`. -/
structure Settled (cfg : WAFPolicyTranslatorConfig) (s : Store) (policy : WAFPolicy) (g : String)
    (result : OperationResult) : Prop where
  wf : s.WellFormed
  stored : s.policies policy.key = some policy
  live : policy.deletionTimestamp = none
  finalizer : wafPolicyFinalizer ∈ policy.finalizers
  resolves : ResolvesTo s policy g
  engine : ∃ e, s.engines (engineFor policy).key = some e ∧
    ownedEngine cfg policy [(gatewayNameLabel, g)] e = e ∧ ¬ControlledByOther policy e.ownerReferences
  programmed : ProgrammedAs policy result

section settled

variable {cfg : WAFPolicyTranslatorConfig} {s : Store} {policy : WAFPolicy} {g : String}

theorem settled_patchConditions (result : OperationResult) (now : Time)
    (hwf : (s.patchConditions policy
      (programmedConditions policy (engineFor policy).name result now)).WellFormed)
    (hP : s.policies policy.key = some policy) (hlive : policy.deletionTimestamp = none)
    (hf : wafPolicyFinalizer ∈ policy.finalizers) (hres : ResolvesTo s policy g) {e : Engine}
    (he : s.engines (engineFor policy).key = some e)
    (hown : ownedEngine cfg policy [(gatewayNameLabel, g)] e = e)
    (hnot : ¬ControlledByOther policy e.ownerReferences) :
    ∃ policy', (s.patchConditions policy
        (programmedConditions policy (engineFor policy).name result now)).policies policy.key =
          some policy' ∧
      policy'.key = policy.key ∧ policy'.finalizers = policy.finalizers ∧
      policy'.conditions = programmedConditions policy (engineFor policy).name result now ∧
      Settled cfg (s.patchConditions policy
        (programmedConditions policy (engineFor policy).name result now)) policy' g result := by
  obtain ⟨rv, hstored⟩ := Store.patchConditions_policies_self policy
    (programmedConditions policy (engineFor policy).name result now) hP
  refine ⟨_, hstored, rfl, rfl, rfl, ?_⟩
  have howner : policyOwner { policy with
      conditions := programmedConditions policy (engineFor policy).name result now,
      resourceVersion := rv } = policyOwner policy := rfl
  exact {
    wf := hwf
    stored := hstored
    live := hlive
    finalizer := hf
    resolves := (resolvesTo_congr (Store.patchConditions_objects ..)
      (Store.patchConditions_namespaced ..) _ _).mpr hres
    engine := ⟨e, by rw [Store.patchConditions_engines]; exact he,
      by rw [ownedEngine_congr rfl howner]; exact hown, (controlledByOther_congr howner _).not.mpr hnot⟩
    programmed := programmedAs_of_programmedConditions now rfl rfl rfl }

theorem run_reconcile_settled {result : OperationResult} (h : Settled cfg s policy g result)
    (now : Time) (σ : List Event) :
    ∃ read e, ¬read.call.IsWrite ∧ s.engines (engineFor policy).key = some e ∧
      ownedEngine cfg policy [(gatewayNameLabel, g)] e = e ∧ ¬ControlledByOther policy e.ownerReferences ∧
      (reconcile cfg now policy.key).run s σ =
        (({}, none), s.patchConditions policy
            (programmedConditions policy (engineFor policy).name .operationResultNone now),
          patchEvent policy (programmedConditions policy (engineFor policy).name .operationResultNone now) ::
            ⟨.getEngine (engineFor policy).key, .ok e⟩ :: read ::
            ⟨.getPolicy policy.key, .ok policy⟩ :: σ) := by
  obtain ⟨e, he, hown, hnot⟩ := h.engine
  obtain ⟨read, hread, hrt⟩ := run_reconcileTarget_resolved cfg now
    (σ := [⟨.getPolicy policy.key, .ok policy⟩] ++ σ) h.resolves
  refine ⟨read, e, hread, he, hown, hnot, ?_⟩
  rw [run_reconcile_live cfg now h.stored h.live, finalizerStep_of_mem h.finalizer, hrt,
    run_ensureEngine_unchanged now h.stored he (h.wf.engine_key he) hnot hown]
  rfl

/-- A successful pass for a live policy whose target resolves leaves it settled. -/
theorem settled_after_pass (hs : s.WellFormed) (h : s.policies policy.key = some policy)
    (hlive : policy.deletionTimestamp = none) (hres : ResolvesTo s policy g) (now : Time)
    (σ : List Event) (hok : ((reconcile cfg now policy.key).run s σ).1.2 = none) :
    ∃ policy' result, ((reconcile cfg now policy.key).run s σ).2.1.policies policy.key = some policy' ∧
      Settled cfg ((reconcile cfg now policy.key).run s σ).2.1 policy' g result := by
  have hwf := hs.run (reconcile cfg now policy.key) σ
  obtain ⟨rv, hp⟩ := finalizerStep_policy (s := s) hlive
  have hs1 := wellFormed_finalizerStep hs h hlive
  have hkey := finalizerStep_key (s := s) hlive
  have hstored := finalizerStep_stored_self h hlive
  have hlive1 : (finalizerStep s policy).1.deletionTimestamp = none := by rw [hp]; exact hlive
  have hf1 : wafPolicyFinalizer ∈ (finalizerStep s policy).1.finalizers := by rw [hp]; simp
  have hres1 := (resolvesTo_finalizerStep hlive g).mpr hres
  obtain ⟨read, -, hrt⟩ := run_reconcileTarget_resolved cfg now
    (σ := (finalizerStep s policy).2.2 ++ σ) hres1
  rw [(run_reconcile_live cfg now h hlive).trans hrt] at hwf hok ⊢
  rw [← hkey]
  cases he : (finalizerStep s policy).2.1.engines (engineFor (finalizerStep s policy).1).key with
  | none =>
    by_cases hname : Validation.DNS1123Subdomain (engineFor (finalizerStep s policy).1).name
    swap
    · rw [run_ensureEngine_invalidName now hstored he hname] at hok
      simp at hok
    rw [run_ensureEngine_create now hstored he hname] at hwf ⊢
    obtain ⟨p', hp', -, -, -, hset⟩ := settled_patchConditions .operationResultCreated now hwf
      (by simpa using hstored) hlive1 hf1 ((resolvesTo_congr (Store.setEngine_objects ..)
        (Store.setEngine_namespaced ..) _ _).mpr hres1) (Store.setEngine_engines_self ..)
      (ownedEngine_idem _ _) (not_controlledByOther_upsert not_controlledByOther_nil)
    exact ⟨p', _, hp', hset⟩
  | some existing =>
    have hk := hs1.engine_key he
    by_cases hother : ControlledByOther (finalizerStep s policy).1 existing.ownerReferences
    · obtain ⟨c, hc, hne⟩ := hother
      rw [run_ensureEngine_controlledByOther now hstored he hk hc hne] at hok
      simp at hok
    by_cases hsame : ownedEngine cfg (finalizerStep s policy).1 [(gatewayNameLabel, g)] existing = existing
    · rw [run_ensureEngine_unchanged now hstored he hk hother hsame] at hwf ⊢
      obtain ⟨p', hp', -, -, -, hset⟩ := settled_patchConditions .operationResultNone now hwf hstored
        hlive1 hf1 hres1 he hsame hother
      exact ⟨p', _, hp', hset⟩
    by_cases hvalid : Store.OwnerReferencesValid
      (ownedEngine cfg (finalizerStep s policy).1 [(gatewayNameLabel, g)] existing).ownerReferences
    · rw [run_ensureEngine_update now hstored he hk hother (Ne.symm hsame) hvalid] at hwf ⊢
      obtain ⟨p', hp', -, -, -, hset⟩ := settled_patchConditions .operationResultUpdated now hwf
        (by simpa using hstored) hlive1 hf1 ((resolvesTo_congr (Store.setEngine_objects ..)
          (Store.setEngine_namespaced ..) _ _).mpr hres1) (Store.setEngine_engines_self ..)
        (ownedEngine_idem _ _) (not_controlledByOther_upsert hother)
      exact ⟨p', _, hp', hset⟩
    · rw [run_ensureEngine_rejected now hstored he hk hother (Ne.symm hsame) hvalid] at hok
      simp at hok

/-- Passes of a live policy whose target resolves, with no other writer in between: after a
successful pass the next one writes no Engine and changes no condition beyond the Programmed
message, which now reports `unchanged`; the store it leaves is a fixed point of every later pass. -/
theorem reconcile_converges (cfg : WAFPolicyTranslatorConfig) (now₁ now₂ : Time) (hs : s.WellFormed)
    (h : s.policies policy.key = some policy) (hlive : policy.deletionTimestamp = none)
    (hres : ResolvesTo s policy g) (hok : ((reconcile cfg now₁ policy.key).run s []).1.2 = none) :
    let pass₁ := (reconcile cfg now₁ policy.key).run s []
    let pass₂ := (reconcile cfg now₂ policy.key).run pass₁.2.1 []
    pass₂.2.1.engines = pass₁.2.1.engines ∧
    (∀ ev ∈ pass₂.2.2, ∀ e, ev.call ≠ .createEngine e ∧ ev.call ≠ .updateEngine e) ∧
    (∃ p₁ p₂ c, pass₁.2.1.policies policy.key = some p₁ ∧ pass₂.2.1.policies policy.key = some p₂ ∧
      p₂.finalizers = p₁.finalizers ∧
      p₂.conditions.map Condition.stamp = p₁.conditions.map Condition.stamp ∧
      findStatusCondition p₂.conditions "Programmed" = some c ∧
      c.message = "Engine \"" ++ (engineFor policy).name ++ "\" unchanged") ∧
    ∀ now, ((reconcile cfg now policy.key).run pass₂.2.1 []).2.1 = pass₂.2.1 := by
  intro pass₁ pass₂
  obtain ⟨p₁, r, hp₁, hset₁⟩ := settled_after_pass hs h hlive hres now₁ [] hok
  have hkey₁ : p₁.key = policy.key := hset₁.wf.policy_key hp₁
  obtain ⟨read, e, hread, he, hown, hnot, hrun₂⟩ := run_reconcile_settled hset₁ now₂ []
  rw [hkey₁] at hrun₂
  have hpass₂ : pass₂ = _ := hrun₂
  have hwf₂ : pass₂.2.1.WellFormed := hset₁.wf.run _ _
  rw [hpass₂] at hwf₂ ⊢
  obtain ⟨p₂, hp₂, hkey₂, hfin₂, hcond₂, hset₂⟩ := settled_patchConditions .operationResultNone now₂
    hwf₂ hset₁.stored hset₁.live hset₁.finalizer hset₁.resolves he hown hnot
  have hkey : p₂.key = policy.key := hkey₂.trans hkey₁
  rw [hkey₁] at hp₂
  refine ⟨by simp, fun ev hev e' => ?_, ⟨p₁, p₂, ?_⟩, fun now => ?_⟩
  · simp only [List.mem_cons, List.not_mem_nil, or_false] at hev
    rcases hev with rfl | rfl | rfl | rfl
    · simp [patchEvent]
    · simp
    · exact not_engineWrite_of_read hread e'
    · simp
  · obtain ⟨-, c, hc, -, -, hm, -⟩ := hset₂.programmed
    refine ⟨c, hp₁, hp₂, hfin₂, by rw [hcond₂, programmedConditions_stamp hset₁.programmed], hc, ?_⟩
    have hname : p₂.name = policy.name := congrArg ObjectKey.name hkey
    rw [hm]
    simp only [engineFor, hname, OperationResult.toString, String.append_assoc]
    rfl
  · obtain ⟨_, _, -, -, -, -, hrun₃⟩ := run_reconcile_settled hset₂ now []
    rw [hkey] at hrun₃
    dsimp only
    rw [hrun₃]
    exact Store.patchConditions_eq_self _ _ (programmedConditions_eq_self hset₂.programmed now)

theorem reconcile_converges_serviceParent :
    serviceParentStore.WellFormed ∧
    serviceParentStore.policies serviceParentPolicy.key = some serviceParentPolicy ∧
    serviceParentPolicy.deletionTimestamp = none ∧
    ResolvesTo serviceParentStore serviceParentPolicy "svc" ∧
    ((reconcile testTranslatorConfig 0 serviceParentPolicy.key).run serviceParentStore []).1.2 = none ∧
    let pass₁ := (reconcile testTranslatorConfig 0 serviceParentPolicy.key).run serviceParentStore []
    let pass₂ := (reconcile testTranslatorConfig 1 serviceParentPolicy.key).run pass₁.2.1 []
    pass₂.2.1.engines = pass₁.2.1.engines ∧
    (∀ ev ∈ pass₂.2.2, ∀ e, ev.call ≠ .createEngine e ∧ ev.call ≠ .updateEngine e) ∧
    (∃ p₁ p₂ c, pass₁.2.1.policies serviceParentPolicy.key = some p₁ ∧
      pass₂.2.1.policies serviceParentPolicy.key = some p₂ ∧
      p₂.finalizers = p₁.finalizers ∧
      p₂.conditions.map Condition.stamp = p₁.conditions.map Condition.stamp ∧
      findStatusCondition p₂.conditions "Programmed" = some c ∧
      c.message = "Engine \"" ++ (engineFor serviceParentPolicy).name ++ "\" unchanged") ∧
    ∀ now, ((reconcile testTranslatorConfig now serviceParentPolicy.key).run pass₂.2.1 []).2.1 =
      pass₂.2.1 := by
  have hok : ((reconcile testTranslatorConfig 0 serviceParentPolicy.key).run
      serviceParentStore []).1.2 = none := by
    rw [run_reconcile_serviceParent]
  exact ⟨wellFormed_serviceParentStore, serviceParentStore_policy, rfl, resolvesTo_serviceParent, hok,
    reconcile_converges testTranslatorConfig 0 1 wellFormed_serviceParentStore serviceParentStore_policy
      rfl resolvesTo_serviceParent hok⟩

end settled

end Controller

end CorazaOperator
