import CorazaOperator.Proof.Resolution

/-!
# The Engine a pass leaves

A pass for a live policy whose target resolves recomputes the whole Engine spec and upserts the
policy's controller reference, whatever the Engine held before: the spec is the synthesized one and
the only controller reference is the policy's. The one prior state it does not overwrite is an
Engine another object controls: `SetControllerReference` refuses it, the Engine stays as it was, and
the policy is marked Programmed False with reason `EngineSyncFailed`.

An update can still be refused by the server, when the upserted list names two controllers (the
prior list named the policy as controller under a reference `upsertOwnerRef` does not replace).
The statements therefore assume that every write of the pass is accepted.
-/

namespace CorazaOperator

namespace Controller

open Apimeta Controllerutil

/-- Every write among the events was accepted. -/
def WritesAccepted (events : List Event) : Prop :=
  ∀ ev ∈ events, ev.call.IsWrite → ev.error? = none

instance (events : List Event) : Decidable (WritesAccepted events) :=
  inferInstanceAs (Decidable (∀ ev ∈ events, _))

theorem filter_controller_eq_singleton {ref : OwnerReference} {refs : List OwnerReference}
    (hmem : ref ∈ refs) (hctrl : ref.controller = some true) (hvalid : Store.OwnerReferencesValid refs) :
    refs.filter (fun r => r.controller = some true) = [ref] := by
  have hin : ref ∈ refs.filter (fun r => r.controller = some true) := by simp [hmem, hctrl]
  unfold Store.OwnerReferencesValid at hvalid
  rcases hl : refs.filter (fun r => r.controller = some true) with _ | ⟨a, _ | ⟨b, rest⟩⟩
  · rw [hl] at hin; cases hin
  · rw [hl] at hin; rw [List.mem_singleton.mp hin]; exact hl
  · rw [hl] at hvalid; simp at hvalid

theorem programmed_syncFailedConditions (now : Time) (policy : WAFPolicy) (err : ReconcileError) :
    ∃ c, findStatusCondition (syncFailedConditions now policy err) "Programmed" = some c ∧
      c.status = .conditionFalse ∧ c.reason = "EngineSyncFailed" := by
  obtain ⟨c, hc, hs, hr, -⟩ := exists_findStatusCondition_setStatusCondition policy.conditions
    { type := "Programmed", status := .conditionFalse, observedGeneration := policy.generation,
      lastTransitionTime := now, reason := "EngineSyncFailed",
      message := "Failed to create/update Engine: " ++ err.message }
  exact ⟨c, hc, hs, hr⟩

section

variable (cfg : WAFPolicyTranslatorConfig) (now : Time) {s : Store} {policy : WAFPolicy}
  {labels : List (String × String)} {σ : List Event}

/-- The Engine step's own result, for an Engine the policy may own: the synthesized spec and the
policy as the only controller. -/
theorem ensureEngine_synchronized (hs : s.WellFormed) (hP : s.policies policy.key = some policy)
    (hown : ∀ e, s.engines (engineFor policy).key = some e →
      ¬ControlledByOther policy e.ownerReferences)
    (hwrites : WritesAccepted ((ensureEngine cfg now policy labels).run s σ).2.2) :
    ∃ e, ((ensureEngine cfg now policy labels).run s σ).2.1.engines (engineFor policy).key = some e ∧
      e.spec = engineSpec cfg policy labels ∧
      e.ownerReferences.filter (fun r => r.controller = some true) =
        [(policyOwner policy).controllerRef] := by
  have hctrl : (policyOwner policy).controllerRef.controller = some true := rfl
  cases h : s.engines (engineFor policy).key with
  | none =>
    by_cases hname : Validation.DNS1123Subdomain (engineFor policy).name
    · rw [run_ensureEngine_create now hP h hname]
      exact ⟨{ ownedEngine cfg policy labels (engineFor policy) with resourceVersion := s.revision },
        by simp, rfl, by simp [ownedEngine, engineFor, upsertOwnerRef, hctrl]⟩
    · have hrun : (ensureEngine cfg now policy labels).run s σ = _ :=
        run_ensureEngine_invalidName now hP h hname
      have := hwrites ⟨.createEngine (ownedEngine cfg policy labels (engineFor policy)),
        .error (Store.invalidName Store.engineGroupKind (engineFor policy).name)⟩
        (by rw [hrun]; simp) trivial
      simp [Event.error?] at this
  | some existing =>
    have hkey := hs.engine_key h
    have hnot := hown existing h
    have hmem := self_mem_upsertOwnerRef (policyOwner policy).controllerRef existing.ownerReferences
    by_cases hsame : ownedEngine cfg policy labels existing = existing
    · rw [run_ensureEngine_unchanged now hP h hkey hnot hsame]
      refine ⟨existing, by simp [h], by rw [← hsame]; rfl, ?_⟩
      have hmem' : (policyOwner policy).controllerRef ∈
          (ownedEngine cfg policy labels existing).ownerReferences := hmem
      rw [hsame] at hmem'
      exact filter_controller_eq_singleton hmem' hctrl (hs.engine_valid h)
    by_cases hvalid : Store.OwnerReferencesValid (ownedEngine cfg policy labels existing).ownerReferences
    · rw [run_ensureEngine_update now hP h hkey hnot (Ne.symm hsame) hvalid]
      exact ⟨{ ownedEngine cfg policy labels existing with resourceVersion := s.revision },
        by simp, rfl, filter_controller_eq_singleton hmem hctrl hvalid⟩
    · have hrun := run_ensureEngine_rejected (σ := σ) now hP h hkey hnot (Ne.symm hsame) hvalid
      have := hwrites ⟨.updateEngine (ownedEngine cfg policy labels existing),
        .error (Store.tooManyControllers (ownedEngine cfg policy labels existing))⟩
        (by rw [hrun]; simp) trivial
      simp [Event.error?] at this

theorem ensureEngine_controlledByOther (hs : s.WellFormed) (hP : s.policies policy.key = some policy)
    {existing : Engine} (h : s.engines (engineFor policy).key = some existing)
    (hother : ControlledByOther policy existing.ownerReferences) :
    ((ensureEngine cfg now policy labels).run s σ).2.1.engines (engineFor policy).key = some existing ∧
    ∃ p c, ((ensureEngine cfg now policy labels).run s σ).2.1.policies policy.key = some p ∧
      findStatusCondition p.conditions "Programmed" = some c ∧
      c.status = .conditionFalse ∧ c.reason = "EngineSyncFailed" := by
  obtain ⟨c, hc, hne⟩ := hother
  rw [run_ensureEngine_controlledByOther now hP h (hs.engine_key h) hc hne]
  obtain ⟨rv, hpatched⟩ := Store.patchConditions_policies_self policy
    (syncFailedConditions now policy (.controllerReference (.alreadyOwned existing.namespace existing.name c)))
    hP
  obtain ⟨c', hc', hstatus, hreason⟩ := programmed_syncFailedConditions now policy
    (.controllerReference (.alreadyOwned existing.namespace existing.name c))
  exact ⟨by simp [h], _, c', hpatched, hc', hstatus, hreason⟩

theorem controlledByOther_congr {policy policy' : WAFPolicy} (h : policyOwner policy' = policyOwner policy)
    (refs : List OwnerReference) : ControlledByOther policy' refs ↔ ControlledByOther policy refs := by
  unfold ControlledByOther
  rw [h]

/-- A pass for a live policy whose target resolves to `g`, with every write accepted, leaves at the
Engine key the synthesized spec and the policy as the only controller, unless another object
controls the Engine; then the Engine is left as it was and the policy is Programmed False,
`EngineSyncFailed`. -/
theorem reconcile_engine_synchronized (hs : s.WellFormed) (h : s.policies policy.key = some policy)
    (hlive : policy.deletionTimestamp = none) {g : String} (hres : ResolvesTo s policy g)
    (hwrites : WritesAccepted ((reconcile cfg now policy.key).run s []).2.2) :
    let pass := (reconcile cfg now policy.key).run s []
    ((∀ e, s.engines (engineFor policy).key = some e → ¬ControlledByOther policy e.ownerReferences) →
      ∃ e, pass.2.1.engines (engineFor policy).key = some e ∧
        e.spec = engineSpec cfg policy [(gatewayNameLabel, g)] ∧
        e.ownerReferences.filter (fun r => r.controller = some true) =
          [(policyOwner policy).controllerRef]) ∧
    (∀ e, s.engines (engineFor policy).key = some e → ControlledByOther policy e.ownerReferences →
      pass.2.1.engines (engineFor policy).key = some e ∧
      ∃ p c, pass.2.1.policies policy.key = some p ∧ findStatusCondition p.conditions "Programmed" = some c ∧
        c.status = .conditionFalse ∧ c.reason = "EngineSyncFailed") := by
  intro pass
  obtain ⟨rv, hp⟩ := finalizerStep_policy (s := s) hlive
  have hs1 := wellFormed_finalizerStep hs h hlive
  have hkey := finalizerStep_key (s := s) hlive
  have hstored := finalizerStep_stored_self h hlive
  have hengine := finalizerStep_engineFor (s := s) hlive
  have hspec : engineSpec cfg (finalizerStep s policy).1 [(gatewayNameLabel, g)] =
      engineSpec cfg policy [(gatewayNameLabel, g)] := by rw [hp]; rfl
  have howner : policyOwner (finalizerStep s policy).1 = policyOwner policy := by rw [hp]; rfl
  obtain ⟨read, -, hrt⟩ := run_reconcileTarget_resolved cfg now
    (σ := (finalizerStep s policy).2.2 ++ []) ((resolvesTo_finalizerStep hlive g).mpr hres)
  have hpass : pass = _ := (run_reconcile_live cfg now h hlive).trans hrt
  have hwrites' : WritesAccepted pass.2.2 := hwrites
  rw [hpass] at hwrites' ⊢
  constructor
  · intro hown
    obtain ⟨e, he, hes, hrefs⟩ := ensureEngine_synchronized cfg now hs1 hstored
      (fun e he => (controlledByOther_congr howner _).not.mpr
        (hown e (by rwa [hengine, finalizerStep_engines] at he))) hwrites'
    rw [hengine] at he
    rw [hspec] at hes
    rw [howner] at hrefs
    exact ⟨e, he, hes, hrefs⟩
  · intro e he hother
    obtain ⟨he', p, c, hp', hc⟩ := @ensureEngine_controlledByOther cfg now _ _ [(gatewayNameLabel, g)]
      (read :: ((finalizerStep s policy).2.2 ++ [])) hs1 hstored _
      (by rw [hengine, finalizerStep_engines]; exact he) ((controlledByOther_congr howner _).mpr hother)
    rw [hengine] at he'
    rw [hkey] at hp'
    exact ⟨he', p, c, hp', hc⟩

end

/-- The three paths of the Engine step of a pass on `serviceParentPolicy`: with no Engine, one is
created; with an Engine the policy controls whose spec drifted, it is updated back to the
synthesized spec; with an Engine another object controls, it is left as it is and the policy is
Programmed False. -/
theorem reconcile_engine_synchronized_serviceParent :
    (∃ e, ((reconcile testTranslatorConfig 0 serviceParentPolicy.key).run serviceParentStore
        []).2.1.engines (engineFor serviceParentPolicy).key = some e ∧
      e.spec = engineSpec testTranslatorConfig serviceParentPolicy [(gatewayNameLabel, "svc")] ∧
      e.ownerReferences.filter (fun r => r.controller = some true) =
        [(policyOwner serviceParentPolicy).controllerRef]) ∧
    (∃ e, (priorEngineStore [(policyOwner serviceParentPolicy).controllerRef]).engines
        (engineFor serviceParentPolicy).key = some e ∧
      e.spec ≠ engineSpec testTranslatorConfig serviceParentPolicy [(gatewayNameLabel, "svc")]) ∧
    (∃ e, ((reconcile testTranslatorConfig 0 serviceParentPolicy.key).run
        (priorEngineStore [(policyOwner serviceParentPolicy).controllerRef])
        []).2.1.engines (engineFor serviceParentPolicy).key = some e ∧
      e.spec = engineSpec testTranslatorConfig serviceParentPolicy [(gatewayNameLabel, "svc")] ∧
      e.ownerReferences.filter (fun r => r.controller = some true) =
        [(policyOwner serviceParentPolicy).controllerRef]) ∧
    ((reconcile testTranslatorConfig 0 serviceParentPolicy.key).run (priorEngineStore [foreignController])
        []).2.1.engines (engineFor serviceParentPolicy).key =
      (priorEngineStore [foreignController]).engines (engineFor serviceParentPolicy).key ∧
    ∃ p c, ((reconcile testTranslatorConfig 0 serviceParentPolicy.key).run
        (priorEngineStore [foreignController]) []).2.1.policies serviceParentPolicy.key = some p ∧
      findStatusCondition p.conditions "Programmed" = some c ∧
      c.status = .conditionFalse ∧ c.reason = "EngineSyncFailed" := by
  have hs (refs : List OwnerReference) : (priorEngineStore refs).WellFormed :=
    wellFormed_serviceParentStore.exec _
  have hown : ResolvesTo (priorEngineStore [(policyOwner serviceParentPolicy).controllerRef])
      serviceParentPolicy "svc" := .inr ⟨rfl, _, rfl, _, [], rfl, rfl, by decide⟩
  have hforeign : ResolvesTo (priorEngineStore [foreignController]) serviceParentPolicy "svc" :=
    .inr ⟨rfl, _, rfl, _, [], rfl, rfl, by decide⟩
  obtain ⟨hcreate, -⟩ := reconcile_engine_synchronized testTranslatorConfig 0
    wellFormed_serviceParentStore serviceParentStore_policy rfl resolvesTo_serviceParent (by decide)
  have hp₁ : (priorEngineStore [(policyOwner serviceParentPolicy).controllerRef]).policies
      serviceParentPolicy.key = some serviceParentPolicy := rfl
  have hp₂ : (priorEngineStore [foreignController]).policies serviceParentPolicy.key =
      some serviceParentPolicy := rfl
  obtain ⟨hupdate, -⟩ := reconcile_engine_synchronized testTranslatorConfig 0 (hs _) hp₁ rfl hown
    (by decide)
  obtain ⟨-, hkeep⟩ := reconcile_engine_synchronized testTranslatorConfig 0 (hs _) hp₂ rfl hforeign
    (by decide)
  obtain ⟨he, hstatus⟩ := hkeep _ rfl ⟨_, rfl, rfl⟩
  exact ⟨hcreate (fun _ h => nomatch h), ⟨_, rfl, by decide⟩,
    hupdate (fun _ h ⟨_, hc, hne⟩ => by cases h; cases hc; cases hne), he, hstatus⟩

end Controller

end CorazaOperator
