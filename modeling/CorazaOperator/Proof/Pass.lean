import CorazaOperator.Client.WellFormed
import CorazaOperator.Controller.WAFPolicy

/-!
# A pass against the store

What each function of the controller does when every call it makes is answered by the store: one
lemma per function, stated with the callee's result as a hypothesis, so that a pass is taken apart
function by function and no proof unfolds a callee. The cases follow the branches of the code.
-/

namespace CorazaOperator

open Controller Controllerutil

namespace Store

variable (s : Store)

theorem get_isNotFound {gvk : GroupVersionKind} {key : ObjectKey} {err : ApiError}
    (hns : key.namespace ≠ "") (h : s.get gvk key = .error err) : err.IsNotFound := by
  unfold get requestKey at h
  split_ifs at h <;> simp only at h <;> split at h <;> cases h <;> rfl

theorem get_congr {s' : Store} (hobjects : s'.objects = s.objects)
    (hnamespaced : s'.namespaced = s.namespaced) : s'.get = s.get := by
  funext gvk key
  simp only [get, requestKey, hobjects, hnamespaced]

theorem updatePolicy_finalizers {policy : WAFPolicy} (h : s.policies policy.key = some policy)
    (hlive : policy.deletionTimestamp = none) (finalizers : List String) :
    s.updatePolicy { policy with finalizers } =
      (.ok (s.updatedPolicy policy { policy with finalizers }),
        s.setPolicy policy.key (some (s.updatedPolicy policy { policy with finalizers }))) := by
  have hkey : ({ policy with finalizers } : WAFPolicy).key = policy.key := rfl
  simp only [updatePolicy, hkey, h, ne_eq, not_true_eq_false, if_false]
  rw [if_neg]
  simp [updatedPolicy, hlive]

/-- The store after a status patch of a policy as it is stored: unchanged when the conditions are,
and otherwise the policy with the new conditions and a new resource version. -/
def patchConditions (policy : WAFPolicy) (conditions : List Condition) : Store :=
  if conditions = policy.conditions then s
  else s.setPolicy policy.key (some { policy with conditions, resourceVersion := s.revision })

theorem exec_patchStatus {policy : WAFPolicy} (h : s.policies policy.key = some policy)
    (conditions : List Condition) :
    s.exec (.patchPolicyStatus policy.key (mergePatch policy.conditions conditions)) =
      (.ok (), s.patchConditions policy conditions) := by
  simp only [exec, patchPolicyStatus, h, mergePatch, patchConditions]
  split_ifs <;> rfl

section patchConditions

variable {s} (policy : WAFPolicy) (conditions : List Condition)

@[simp] theorem patchConditions_engines : (s.patchConditions policy conditions).engines = s.engines := by
  unfold patchConditions; split_ifs <;> rfl

@[simp] theorem patchConditions_objects : (s.patchConditions policy conditions).objects = s.objects := by
  unfold patchConditions; split_ifs <;> rfl

@[simp] theorem patchConditions_namespaced :
    (s.patchConditions policy conditions).namespaced = s.namespaced := by
  unfold patchConditions; split_ifs <;> rfl

theorem patchConditions_policies_self (h : s.policies policy.key = some policy) :
    ∃ rv, (s.patchConditions policy conditions).policies policy.key =
      some { policy with conditions, resourceVersion := rv } := by
  unfold patchConditions
  split_ifs with hc
  · exact ⟨policy.resourceVersion, by rw [h, hc]⟩
  · exact ⟨_, setPolicy_policies_self ..⟩

theorem patchConditions_eq_self (h : conditions = policy.conditions) :
    s.patchConditions policy conditions = s := if_pos h

end patchConditions

@[simp] theorem createEngine_policies (e : Engine) : (s.createEngine e).2.policies = s.policies := by
  unfold createEngine; split_ifs <;> (try split) <;> rfl

@[simp] theorem createEngine_objects (e : Engine) : (s.createEngine e).2.objects = s.objects := by
  unfold createEngine; split_ifs <;> (try split) <;> rfl

@[simp] theorem updateEngine_policies (e : Engine) : (s.updateEngine e).2.policies = s.policies := by
  unfold updateEngine; split <;> (try split_ifs) <;> rfl

@[simp] theorem updateEngine_objects (e : Engine) : (s.updateEngine e).2.objects = s.objects := by
  unfold updateEngine; split <;> (try split_ifs) <;> rfl

end Store

namespace Controller

open Prog

variable {s : Store} {σ : List Event}

/-! ### `createOrUpdateEngine` -/

section createOrUpdateEngine

variable {engine obj : Engine} {f : Engine → Except ReconcileError Engine}

theorem run_createOrUpdateEngine_create (h : s.engines engine.key = none)
    (hm : mutate f engine.key engine = .ok obj) :
    (createOrUpdateEngine engine f).run s σ =
      (((s.createEngine obj).1.map fun () => .operationResultCreated).mapError .api,
        (s.createEngine obj).2,
        ⟨.createEngine obj, (s.createEngine obj).1⟩ ::
          ⟨.getEngine engine.key, s.getEngine engine.key⟩ :: σ) := by
  have hget : s.getEngine engine.key = .error (Store.notFound Store.enginesResource engine.key.name) := by
    simp [Store.getEngine, h]
  simp only [createOrUpdateEngine, getEngine, createEngine, run_bind, run_call, Store.exec, hget,
    run_ret, ApiError.IsNotFound, Store.notFound, not_true_eq_false, if_false, hm]
  cases (s.createEngine obj).1 <;> rfl

theorem run_createOrUpdateEngine_present_error {existing : Engine} {err : ReconcileError}
    (h : s.engines engine.key = some existing) (hm : mutate f engine.key existing = .error err) :
    (createOrUpdateEngine engine f).run s σ =
      (.error err, s, ⟨.getEngine engine.key, .ok existing⟩ :: σ) := by
  simp only [createOrUpdateEngine, getEngine, run_bind, run_call, Store.exec, Store.getEngine, h,
    run_ret, hm, pure_eq]

theorem run_createOrUpdateEngine_unchanged {existing : Engine}
    (h : s.engines engine.key = some existing) (hm : mutate f engine.key existing = .ok existing) :
    (createOrUpdateEngine engine f).run s σ =
      (.ok .operationResultNone, s, ⟨.getEngine engine.key, .ok existing⟩ :: σ) := by
  simp only [createOrUpdateEngine, getEngine, run_bind, run_call, Store.exec, Store.getEngine, h,
    run_ret, hm, if_true, pure_eq]

theorem run_createOrUpdateEngine_update {existing : Engine}
    (h : s.engines engine.key = some existing) (hm : mutate f engine.key existing = .ok obj)
    (hne : existing ≠ obj) :
    (createOrUpdateEngine engine f).run s σ =
      (((s.updateEngine obj).1.map fun () => .operationResultUpdated).mapError .api,
        (s.updateEngine obj).2,
        ⟨.updateEngine obj, (s.updateEngine obj).1⟩ :: ⟨.getEngine engine.key, .ok existing⟩ :: σ) := by
  simp only [createOrUpdateEngine, getEngine, updateEngine, run_bind, run_call, Store.exec,
    Store.getEngine, h, run_ret, hm, hne, if_false]
  cases (s.updateEngine obj).1 <;> rfl

theorem mutate_key {key : ObjectKey} {obj' : Engine} (h : mutate f key obj = .ok obj') : obj'.key = key := by
  unfold mutate at h
  split at h
  · cases h
  · split_ifs at h with hk
    cases h
    exact hk

theorem callsIn_createOrUpdateEngine {S : Call → Prop} (hget : S (.getEngine engine.key))
    (hcreate : ∀ e, e.key = engine.key → S (.createEngine e))
    (hupdate : ∀ e, e.key = engine.key → S (.updateEngine e)) :
    (createOrUpdateEngine engine f).CallsIn S := by
  simp only [createOrUpdateEngine, getEngine, createEngine, updateEngine, call_bind, ret_bind,
    callsIn_call]
  refine ⟨hget, fun r => ?_⟩
  cases r with
  | error err =>
    dsimp only
    split_ifs
    · split
      · trivial
      · next hm => exact ⟨hcreate _ (mutate_key hm), fun r => by cases r <;> trivial⟩
    · trivial
  | ok existing =>
    dsimp only
    split
    · trivial
    · next hm =>
      split_ifs
      · trivial
      · exact ⟨hupdate _ (mutate_key hm), fun r => by cases r <;> trivial⟩

end createOrUpdateEngine

/-! ### Status patches -/

/-- The event of an accepted status patch of `policy` to `conditions`. -/
def patchEvent (policy : WAFPolicy) (conditions : List Condition) : Event :=
  ⟨.patchPolicyStatus policy.key (mergePatch policy.conditions conditions), .ok ()⟩

section status

variable {policy : WAFPolicy}

theorem run_patchStatus (h : s.policies policy.key = some policy) (conditions : List Condition) :
    (patchStatus policy conditions).run s σ =
      (.ok (), s.patchConditions policy conditions, patchEvent policy conditions :: σ) := by
  simp only [patchStatus, run_call, s.exec_patchStatus h, run_ret, patchEvent]

theorem run_notAccepted (now : Time) (h : s.policies policy.key = some policy) (result : Result)
    (reason message : String) :
    (notAccepted now policy result reason message).run s σ =
      ((result, none), s.patchConditions policy (notAcceptedConditions now policy reason message),
        patchEvent policy (notAcceptedConditions now policy reason message) :: σ) := by
  simp only [notAccepted, setNotAccepted, run_bind, run_patchStatus h, run_ret, pure_eq,
    Option.map_none']

end status

/-! ### `ensureEngine` -/

section ensureEngine

variable (cfg : WAFPolicyTranslatorConfig) (now : Time) {policy : WAFPolicy}
  {labels : List (String × String)} {s' : Store} {σ' : List Event}

theorem run_ensureEngine_ok {result : OperationResult}
    (hupsert : (createOrUpdateEngine (engineFor policy) (mutateEngine cfg policy labels)).run s σ =
      (.ok result, s', σ'))
    (h : s'.policies policy.key = some policy) :
    (ensureEngine cfg now policy labels).run s σ =
      (({}, none), s'.patchConditions policy
          (programmedConditions policy (engineFor policy).name result now),
        patchEvent policy (programmedConditions policy (engineFor policy).name result now) :: σ') := by
  simp only [ensureEngine, run_bind, hupsert, run_patchStatus h, run_ret, pure_eq]

theorem run_ensureEngine_error {err : ReconcileError}
    (hupsert : (createOrUpdateEngine (engineFor policy) (mutateEngine cfg policy labels)).run s σ =
      (.error err, s', σ'))
    (h : s'.policies policy.key = some policy) :
    (ensureEngine cfg now policy labels).run s σ =
      (({}, some err), s'.patchConditions policy (syncFailedConditions now policy err),
        patchEvent policy (syncFailedConditions now policy err) :: σ') := by
  simp only [ensureEngine, run_bind, hupsert, run_patchStatus h, run_ret, pure_eq]

end ensureEngine


/-! ### The Engine step -/

section engineStep

variable (cfg : WAFPolicyTranslatorConfig) (policy : WAFPolicy) (labels : List (String × String))

/-- The Engine `mutateEngine` makes of `engine` when the policy may own it: the synthesized spec and
the policy's controller reference upserted. -/
def ownedEngine (engine : Engine) : Engine :=
  { engine with
    spec := engineSpec cfg policy labels
    ownerReferences := upsertOwnerRef (policyOwner policy).controllerRef engine.ownerReferences }

/-- Owner references whose controller reference names another object than the policy. -/
def ControlledByOther (refs : List OwnerReference) : Prop :=
  ∃ c, Metav1.getControllerOf refs = some c ∧
    referSameObject c (policyOwner policy).controllerRef = false

theorem validateOwner_self (ns : String) : validateOwner ns ns = .ok () := by
  unfold validateOwner
  split_ifs <;> simp_all

variable {cfg policy labels} {engine : Engine}

theorem mutate_owned (hns : engine.namespace = policy.namespace)
    (hown : ¬ControlledByOther policy engine.ownerReferences) :
    mutate (mutateEngine cfg policy labels) engine.key engine = .ok (ownedEngine cfg policy labels engine) := by
  have hv : validateOwner (policyOwner policy).namespace engine.namespace = .ok () :=
    hns ▸ validateOwner_self _
  have hm : mutateEngine cfg policy labels engine = .ok (ownedEngine cfg policy labels engine) := by
    unfold mutateEngine setControllerReference
    simp only [hv]
    cases hc : Metav1.getControllerOf engine.ownerReferences with
    | none => rfl
    | some c =>
      have hsame : referSameObject c (policyOwner policy).controllerRef = true := by
        by_contra hne
        exact hown ⟨c, hc, by simpa using hne⟩
      simp only [hsame, if_true]
      rfl
  simp only [mutate, hm]
  exact if_pos rfl

theorem mutate_controlledByOther {c : OwnerReference} (hns : engine.namespace = policy.namespace)
    (hc : Metav1.getControllerOf engine.ownerReferences = some c)
    (hne : referSameObject c (policyOwner policy).controllerRef = false) :
    mutate (mutateEngine cfg policy labels) engine.key engine =
      .error (.controllerReference (.alreadyOwned engine.namespace engine.name c)) := by
  have hv : validateOwner (policyOwner policy).namespace engine.namespace = .ok () :=
    hns ▸ validateOwner_self _
  simp only [mutate, mutateEngine, setControllerReference, hv, hc, hne, Bool.false_eq_true, if_false]

theorem engineFor_key_inj {a b : WAFPolicy} (h : (engineFor a).key = (engineFor b).key) :
    a.key = b.key := by
  simp only [engineFor, Engine.key, ObjectKey.mk.injEq] at h
  have hname := congrArg String.data h.2
  simp only [String.data_append, List.append_cancel_left_eq] at hname
  simp only [WAFPolicy.key, h.1, String.ext hname]

theorem controlledByOther_name_congr {p q : WAFPolicy} (h : p.name = q.name) (refs : List OwnerReference) :
    ControlledByOther p refs ↔ ControlledByOther q refs := by
  simp only [ControlledByOther, referSameObject, Owner.controllerRef, policyOwner, h]

theorem not_controlledByOther_nil : ¬ControlledByOther policy [] := by
  rintro ⟨c, hc, -⟩
  cases hc

theorem ownerReferencesValid_ownedEngine :
    Store.OwnerReferencesValid (ownedEngine cfg policy labels (engineFor policy)).ownerReferences := by
  simp [Store.OwnerReferencesValid, ownedEngine, engineFor, upsertOwnerRef, Owner.controllerRef]

variable (now : Time) {s : Store} {σ : List Event} {existing : Engine}

theorem run_ensureEngine_create (hP : s.policies policy.key = some policy)
    (h : s.engines (engineFor policy).key = none)
    (hname : Validation.DNS1123Subdomain (engineFor policy).name) :
    (ensureEngine cfg now policy labels).run s σ =
      (({}, none),
        (s.setEngine (engineFor policy).key (some { ownedEngine cfg policy labels (engineFor policy) with
          resourceVersion := s.revision })).patchConditions policy
          (programmedConditions policy (engineFor policy).name .operationResultCreated now),
        patchEvent policy (programmedConditions policy (engineFor policy).name .operationResultCreated now) ::
          ⟨.createEngine (ownedEngine cfg policy labels (engineFor policy)), .ok ()⟩ ::
          ⟨.getEngine (engineFor policy).key, s.getEngine (engineFor policy).key⟩ :: σ) := by
  have hm := @mutate_owned cfg policy labels (engineFor policy) rfl
    not_controlledByOther_nil
  have hc : s.createEngine (ownedEngine cfg policy labels (engineFor policy)) =
      (.ok (), s.setEngine (engineFor policy).key (some { ownedEngine cfg policy labels (engineFor policy) with
        resourceVersion := s.revision })) := by
    have hkey : (ownedEngine cfg policy labels (engineFor policy)).key = (engineFor policy).key := rfl
    have herrs : Store.engineErrors (ownedEngine cfg policy labels (engineFor policy)) = [] :=
      Store.engineErrors_eq_nil.mpr ⟨hname, ownerReferencesValid_ownedEngine⟩
    unfold Store.createEngine
    rw [herrs, if_neg (not_not.mpr rfl), if_neg (by simp [ownedEngine, engineFor]), hkey, h]
  have hu := run_createOrUpdateEngine_create (σ := σ) h hm
  rw [hc] at hu
  rw [run_ensureEngine_ok cfg now hu (by simpa using hP)]

theorem run_ensureEngine_invalidName (hP : s.policies policy.key = some policy)
    (h : s.engines (engineFor policy).key = none)
    (hname : ¬Validation.DNS1123Subdomain (engineFor policy).name) :
    (ensureEngine cfg now policy labels).run s σ =
      (({}, some (.api (Store.invalidName Store.engineGroupKind (engineFor policy).name))),
        s.patchConditions policy (syncFailedConditions now policy
          (.api (Store.invalidName Store.engineGroupKind (engineFor policy).name))),
        patchEvent policy (syncFailedConditions now policy
          (.api (Store.invalidName Store.engineGroupKind (engineFor policy).name))) ::
          ⟨.createEngine (ownedEngine cfg policy labels (engineFor policy)),
            .error (Store.invalidName Store.engineGroupKind (engineFor policy).name)⟩ ::
          ⟨.getEngine (engineFor policy).key, s.getEngine (engineFor policy).key⟩ :: σ) := by
  have hm := @mutate_owned cfg policy labels (engineFor policy) rfl not_controlledByOther_nil
  have hc : s.createEngine (ownedEngine cfg policy labels (engineFor policy)) =
      (.error (Store.invalidName Store.engineGroupKind (engineFor policy).name), s) := by
    unfold Store.createEngine
    rw [Store.engineErrors_of_valid ownerReferencesValid_ownedEngine]
    exact if_pos (mt Store.nameErrors_eq_nil.mp hname)
  have hu := run_createOrUpdateEngine_create (σ := σ) h hm
  rw [hc] at hu
  rw [run_ensureEngine_error cfg now hu hP]

theorem run_ensureEngine_controlledByOther {c : OwnerReference}
    (hP : s.policies policy.key = some policy) (h : s.engines (engineFor policy).key = some existing)
    (hkey : existing.key = (engineFor policy).key)
    (hc : Metav1.getControllerOf existing.ownerReferences = some c)
    (hne : referSameObject c (policyOwner policy).controllerRef = false) :
    (ensureEngine cfg now policy labels).run s σ =
      (({}, some (.controllerReference (.alreadyOwned existing.namespace existing.name c))),
        s.patchConditions policy (syncFailedConditions now policy
          (.controllerReference (.alreadyOwned existing.namespace existing.name c))),
        patchEvent policy (syncFailedConditions now policy
          (.controllerReference (.alreadyOwned existing.namespace existing.name c))) ::
          ⟨.getEngine (engineFor policy).key, .ok existing⟩ :: σ) := by
  have hm := @mutate_controlledByOther cfg policy labels _ _
    (congrArg ObjectKey.namespace hkey) hc hne
  rw [hkey] at hm
  rw [run_ensureEngine_error cfg now (run_createOrUpdateEngine_present_error h hm) hP]

theorem run_ensureEngine_unchanged (hP : s.policies policy.key = some policy)
    (h : s.engines (engineFor policy).key = some existing) (hkey : existing.key = (engineFor policy).key)
    (hown : ¬ControlledByOther policy existing.ownerReferences)
    (hsame : ownedEngine cfg policy labels existing = existing) :
    (ensureEngine cfg now policy labels).run s σ =
      (({}, none),
        s.patchConditions policy
          (programmedConditions policy (engineFor policy).name .operationResultNone now),
        patchEvent policy (programmedConditions policy (engineFor policy).name .operationResultNone now) ::
          ⟨.getEngine (engineFor policy).key, .ok existing⟩ :: σ) := by
  have hm := @mutate_owned cfg policy labels _ (congrArg ObjectKey.namespace hkey) hown
  rw [hkey, hsame] at hm
  rw [run_ensureEngine_ok cfg now (run_createOrUpdateEngine_unchanged h hm) hP]

theorem updateEngine_owned (h : s.engines (engineFor policy).key = some existing)
    (hkey : existing.key = (engineFor policy).key) :
    s.updateEngine (ownedEngine cfg policy labels existing) =
      if Store.OwnerReferencesValid (ownedEngine cfg policy labels existing).ownerReferences then
        (.ok (), s.setEngine (engineFor policy).key
          (some { ownedEngine cfg policy labels existing with resourceVersion := s.revision }))
      else (.error (Store.tooManyControllers (ownedEngine cfg policy labels existing)), s) := by
  have hkey' : (ownedEngine cfg policy labels existing).key = (engineFor policy).key := hkey
  have hrv : (ownedEngine cfg policy labels existing).resourceVersion = existing.resourceVersion := rfl
  simp only [Store.updateEngine, hkey', h, hrv, ne_eq, not_true_eq_false, if_false]
  by_cases hv : Store.OwnerReferencesValid (ownedEngine cfg policy labels existing).ownerReferences
  · rw [if_neg (not_not.mpr hv), if_pos hv]
  · rw [if_pos hv, if_neg hv]

theorem run_ensureEngine_update (hP : s.policies policy.key = some policy)
    (h : s.engines (engineFor policy).key = some existing) (hkey : existing.key = (engineFor policy).key)
    (hown : ¬ControlledByOther policy existing.ownerReferences)
    (hchanged : existing ≠ ownedEngine cfg policy labels existing)
    (hvalid : Store.OwnerReferencesValid (ownedEngine cfg policy labels existing).ownerReferences) :
    (ensureEngine cfg now policy labels).run s σ =
      (({}, none),
        (s.setEngine (engineFor policy).key (some { ownedEngine cfg policy labels existing with
          resourceVersion := s.revision })).patchConditions policy
          (programmedConditions policy (engineFor policy).name .operationResultUpdated now),
        patchEvent policy (programmedConditions policy (engineFor policy).name .operationResultUpdated now) ::
          ⟨.updateEngine (ownedEngine cfg policy labels existing), .ok ()⟩ ::
          ⟨.getEngine (engineFor policy).key, .ok existing⟩ :: σ) := by
  have hm := @mutate_owned cfg policy labels _ (congrArg ObjectKey.namespace hkey) hown
  rw [hkey] at hm
  have hu := run_createOrUpdateEngine_update (σ := σ) h hm hchanged
  rw [updateEngine_owned h hkey, if_pos hvalid] at hu
  rw [run_ensureEngine_ok cfg now hu (by simpa using hP)]

theorem run_ensureEngine_rejected (hP : s.policies policy.key = some policy)
    (h : s.engines (engineFor policy).key = some existing) (hkey : existing.key = (engineFor policy).key)
    (hown : ¬ControlledByOther policy existing.ownerReferences)
    (hchanged : existing ≠ ownedEngine cfg policy labels existing)
    (hinvalid : ¬Store.OwnerReferencesValid (ownedEngine cfg policy labels existing).ownerReferences) :
    (ensureEngine cfg now policy labels).run s σ =
      (({}, some (.api (Store.tooManyControllers (ownedEngine cfg policy labels existing)))),
        s.patchConditions policy (syncFailedConditions now policy
          (.api (Store.tooManyControllers (ownedEngine cfg policy labels existing)))),
        patchEvent policy (syncFailedConditions now policy
          (.api (Store.tooManyControllers (ownedEngine cfg policy labels existing)))) ::
          ⟨.updateEngine (ownedEngine cfg policy labels existing),
            .error (Store.tooManyControllers (ownedEngine cfg policy labels existing))⟩ ::
          ⟨.getEngine (engineFor policy).key, .ok existing⟩ :: σ) := by
  have hm := @mutate_owned cfg policy labels _ (congrArg ObjectKey.namespace hkey) hown
  rw [hkey] at hm
  have hu := run_createOrUpdateEngine_update (σ := σ) h hm hchanged
  rw [updateEngine_owned h hkey, if_neg hinvalid] at hu
  rw [run_ensureEngine_error cfg now hu hP]

/-- The Engine writes of an Engine step: every create or update it sends is of the Engine at the
policy's Engine key with the synthesized spec, and no other Engine changes. -/
theorem ensureEngine_writes (hs : s.WellFormed) (hP : s.policies policy.key = some policy) :
    (∀ k, k ≠ (engineFor policy).key →
      ((ensureEngine cfg now policy labels).run s σ).2.1.engines k = s.engines k) ∧
    ∃ evs, ((ensureEngine cfg now policy labels).run s σ).2.2 = evs ++ σ ∧
      ∀ ev ∈ evs, ∀ e, (ev.call = .createEngine e ∨ ev.call = .updateEngine e) →
        e.key = (engineFor policy).key ∧ e.spec = engineSpec cfg policy labels := by
  cases h : s.engines (engineFor policy).key with
  | none =>
    by_cases hname : Validation.DNS1123Subdomain (engineFor policy).name
    · rw [run_ensureEngine_create now hP h hname]
      refine ⟨fun k hk => by simp [hk], [_, _, _], rfl, ?_⟩
      simp [patchEvent]
      exact ⟨rfl, rfl⟩
    · rw [run_ensureEngine_invalidName now hP h hname]
      refine ⟨fun k _ => by simp, [_, _, _], rfl, ?_⟩
      simp [patchEvent]
      exact ⟨rfl, rfl⟩
  | some existing =>
    have hkey := hs.engine_key h
    by_cases hown : ControlledByOther policy existing.ownerReferences
    · obtain ⟨c, hc, hne⟩ := hown
      rw [run_ensureEngine_controlledByOther now hP h hkey hc hne]
      exact ⟨fun k _ => by simp, [_, _], rfl, by simp [patchEvent]⟩
    by_cases hsame : ownedEngine cfg policy labels existing = existing
    · rw [run_ensureEngine_unchanged now hP h hkey hown hsame]
      exact ⟨fun k _ => by simp, [_, _], rfl, by simp [patchEvent]⟩
    by_cases hvalid : Store.OwnerReferencesValid (ownedEngine cfg policy labels existing).ownerReferences
    · rw [run_ensureEngine_update now hP h hkey hown (Ne.symm hsame) hvalid]
      refine ⟨fun k hk => by simp [hk], [_, _, _], rfl, ?_⟩
      simp [patchEvent]
      exact ⟨hkey, rfl⟩
    · rw [run_ensureEngine_rejected now hP h hkey hown (Ne.symm hsame) hvalid]
      refine ⟨fun k _ => by simp, [_, _, _], rfl, ?_⟩
      simp [patchEvent]
      exact ⟨hkey, rfl⟩

end engineStep

/-! ### Targets -/

section targets

variable (cfg : WAFPolicyTranslatorConfig) (now : Time) {policy : WAFPolicy} {obj : Unstructured}
  {err : ApiError}

theorem run_reconcileForGateway_found
    (hget : s.get gatewayGVK ⟨policy.namespace, policy.spec.targetRef.name⟩ = .ok obj) :
    (reconcileForGateway cfg now policy).run s σ =
      (ensureEngine cfg now policy [(gatewayNameLabel, policy.spec.targetRef.name)]).run s
        (⟨.get gatewayGVK ⟨policy.namespace, policy.spec.targetRef.name⟩, .ok obj⟩ :: σ) := by
  simp only [reconcileForGateway, Controller.get, run_bind, run_call, Store.exec, hget, run_ret]

theorem run_reconcileForGateway_notFound (hns : policy.namespace ≠ "")
    (hget : s.get gatewayGVK ⟨policy.namespace, policy.spec.targetRef.name⟩ = .error err) :
    (reconcileForGateway cfg now policy).run s σ =
      (notAccepted now policy { requeue := true } "TargetNotFound"
          ("Gateway \"" ++ policy.spec.targetRef.name ++ "\" not found")).run s
        (⟨.get gatewayGVK ⟨policy.namespace, policy.spec.targetRef.name⟩, .error err⟩ :: σ) := by
  simp only [reconcileForGateway, Controller.get, run_bind, run_call, Store.exec, hget, run_ret,
    s.get_isNotFound hns hget, if_true]

theorem run_reconcileForHTTPRoute_notFound (hns : policy.namespace ≠ "")
    (hget : s.get httpRouteGVK ⟨policy.namespace, policy.spec.targetRef.name⟩ = .error err) :
    (reconcileForHTTPRoute cfg now policy).run s σ =
      (notAccepted now policy { requeue := true } "TargetNotFound"
          ("HTTPRoute \"" ++ policy.spec.targetRef.name ++ "\" not found")).run s
        (⟨.get httpRouteGVK ⟨policy.namespace, policy.spec.targetRef.name⟩, .error err⟩ :: σ) := by
  simp only [reconcileForHTTPRoute, Controller.get, run_bind, run_call, Store.exec, hget, run_ret,
    s.get_isNotFound hns hget, if_true]

theorem run_reconcileForHTTPRoute_invalid {reason message : String}
    (hget : s.get httpRouteGVK ⟨policy.namespace, policy.spec.targetRef.name⟩ = .ok obj)
    (hparent : routeParentGateway policy.spec.targetRef.name obj = .error (reason, message)) :
    (reconcileForHTTPRoute cfg now policy).run s σ =
      (notAccepted now policy {} reason message).run s
        (⟨.get httpRouteGVK ⟨policy.namespace, policy.spec.targetRef.name⟩, .ok obj⟩ :: σ) := by
  simp only [reconcileForHTTPRoute, Controller.get, run_bind, run_call, Store.exec, hget, run_ret,
    hparent]

theorem run_reconcileForHTTPRoute_found {gatewayName : String}
    (hget : s.get httpRouteGVK ⟨policy.namespace, policy.spec.targetRef.name⟩ = .ok obj)
    (hparent : routeParentGateway policy.spec.targetRef.name obj = .ok gatewayName) :
    (reconcileForHTTPRoute cfg now policy).run s σ =
      (ensureEngine cfg now policy [(gatewayNameLabel, gatewayName)]).run s
        (⟨.get httpRouteGVK ⟨policy.namespace, policy.spec.targetRef.name⟩, .ok obj⟩ :: σ) := by
  simp only [reconcileForHTTPRoute, Controller.get, run_bind, run_call, Store.exec, hget, run_ret,
    hparent]


/-! ### What the target resolves to -/

/-- The name of the first parent reference of a route: the string `name` of the first entry of
`spec.parentRefs`, when that entry is an object and the name is not empty. -/
def FirstParentName (route : Unstructured) (gatewayName : String) : Prop :=
  ∃ first rest, Unstructured.nestedSlice route.content ["spec", "parentRefs"] =
      .ok (some (.object first :: rest)) ∧
    first.lookup "name" = some (.string gatewayName) ∧ gatewayName ≠ ""

/-- A policy's target resolves in the store to the Gateway named `gatewayName`: a Gateway target of
that name found in the policy's namespace, or an HTTPRoute target found there whose first parent
reference names it. -/
def ResolvesTo (s : Store) (policy : WAFPolicy) (gatewayName : String) : Prop :=
  (policy.spec.targetRef.kind = "Gateway" ∧ gatewayName = policy.spec.targetRef.name ∧
    ∃ gateway, s.get gatewayGVK ⟨policy.namespace, gatewayName⟩ = .ok gateway) ∨
  (policy.spec.targetRef.kind = "HTTPRoute" ∧
    ∃ route, s.get httpRouteGVK ⟨policy.namespace, policy.spec.targetRef.name⟩ = .ok route ∧
      FirstParentName route gatewayName)

/-- The reasons a pass sets Accepted False with when the target does not resolve. -/
def notResolvedReasons : List String :=
  ["TargetNotFound", "NoParentGateway", "InvalidParentRef", "InvalidTargetRef"]

theorem resolvesTo_congr {s s' : Store} (hobjects : s'.objects = s.objects)
    (hnamespaced : s'.namespaced = s.namespaced) (policy : WAFPolicy) (gatewayName : String) :
    ResolvesTo s' policy gatewayName ↔ ResolvesTo s policy gatewayName := by
  unfold ResolvesTo
  rw [Store.get_congr _ hobjects hnamespaced]

theorem routeParentGateway_eq_ok {routeName gatewayName : String} {route : Unstructured} :
    routeParentGateway routeName route = .ok gatewayName ↔ FirstParentName route gatewayName := by
  unfold routeParentGateway FirstParentName
  split
  · rename_i first rest hslice
    simp only [hslice, Unstructured.nestedStringOrEmpty_single, Except.ok.injEq, Option.some.injEq,
      List.cons.injEq, Json.object.injEq, exists_and_right, exists_eq', true_and]
    rcases hl : first.lookup "name" with _ | (_ | _ | _ | g | _ | _) <;> simp [hl]
    split_ifs with hg
    · simp only [hg, reduceCtorEq, false_iff, not_and, not_not]
      exact Eq.symm
    · simp only [Except.ok.injEq]
      constructor
      · rintro rfl; exact ⟨rfl, hg⟩
      · rintro ⟨rfl, -⟩; rfl
  · rename_i head tail hobj hslice
    refine ⟨nofun, ?_⟩
    rintro ⟨first, rest, h, -⟩
    rw [hslice] at h
    simp only [Except.ok.injEq, Option.some.injEq, List.cons.injEq] at h
    exact (hobj first h.1).elim
  · rename_i hnone _
    exact ⟨nofun, fun ⟨first, rest, h, _⟩ => (hnone first rest h).elim⟩

theorem routeParentGateway_error_reason {routeName reason message : String} {route : Unstructured}
    (h : routeParentGateway routeName route = .error (reason, message)) :
    reason = "InvalidParentRef" ∨ reason = "NoParentGateway" := by
  unfold routeParentGateway at h
  split at h
  · dsimp only at h
    split_ifs at h
    cases h
    exact .inl rfl
  · cases h
    exact .inl rfl
  · cases h
    exact .inr rfl

theorem run_reconcileTarget_resolved {gatewayName : String} (h : ResolvesTo s policy gatewayName) :
    ∃ read : Event, ¬read.call.IsWrite ∧
      (reconcileTarget cfg now policy).run s σ =
        (ensureEngine cfg now policy [(gatewayNameLabel, gatewayName)]).run s (read :: σ) := by
  rcases h with ⟨hk, rfl, gateway, hget⟩ | ⟨hk, route, hget, hparent⟩
  · refine ⟨⟨.get gatewayGVK ⟨policy.namespace, policy.spec.targetRef.name⟩, .ok gateway⟩,
      fun h => h, ?_⟩
    simp only [reconcileTarget, hk, if_true]
    exact run_reconcileForGateway_found cfg now hget
  · have hk' : policy.spec.targetRef.kind ≠ "Gateway" := by rw [hk]; decide
    refine ⟨⟨.get httpRouteGVK ⟨policy.namespace, policy.spec.targetRef.name⟩, .ok route⟩,
      fun h => h, ?_⟩
    simp only [reconcileTarget, hk, if_neg hk', if_true]
    exact run_reconcileForHTTPRoute_found cfg now hget (routeParentGateway_eq_ok.mpr hparent)

theorem run_reconcileTarget_unresolved (hs : s.WellFormed) (hP : s.policies policy.key = some policy)
    (h : ∀ gatewayName, ¬ResolvesTo s policy gatewayName) :
    ∃ result reason message reads, reason ∈ notResolvedReasons ∧ (∀ ev ∈ reads, ¬ev.call.IsWrite) ∧
      (reconcileTarget cfg now policy).run s σ =
        ((result, none), s.patchConditions policy (notAcceptedConditions now policy reason message),
          patchEvent policy (notAcceptedConditions now policy reason message) :: (reads ++ σ)) := by
  dsimp only [reconcileTarget]
  split_ifs with hgw hroute
  · cases hget : s.get gatewayGVK ⟨policy.namespace, policy.spec.targetRef.name⟩ with
    | ok gateway => exact (h _ (.inl ⟨hgw, rfl, gateway, hget⟩)).elim
    | error err =>
      rw [run_reconcileForGateway_notFound cfg now (hs.policy_namespace hP) hget, run_notAccepted now hP]
      exact ⟨_, _, _, [_], by simp [notResolvedReasons], by simp [Call.IsWrite], rfl⟩
  · cases hget : s.get httpRouteGVK ⟨policy.namespace, policy.spec.targetRef.name⟩ with
    | error err =>
      rw [run_reconcileForHTTPRoute_notFound cfg now (hs.policy_namespace hP) hget, run_notAccepted now hP]
      exact ⟨_, _, _, [_], by simp [notResolvedReasons], by simp [Call.IsWrite], rfl⟩
    | ok route =>
      cases hparent : routeParentGateway policy.spec.targetRef.name route with
      | ok g => exact (h g (.inr ⟨hroute, route, hget, routeParentGateway_eq_ok.mp hparent⟩)).elim
      | error rm =>
        obtain ⟨reason, message⟩ := rm
        rw [run_reconcileForHTTPRoute_invalid cfg now hget hparent, run_notAccepted now hP]
        refine ⟨_, _, _, [_], ?_, by simp [Call.IsWrite], rfl⟩
        rcases routeParentGateway_error_reason hparent with rfl | rfl <;> simp [notResolvedReasons]
  · rw [run_notAccepted now hP]
    exact ⟨_, _, _, [], by simp [notResolvedReasons], by simp, rfl⟩

theorem accepted_notAcceptedConditions (now : Time) (policy : WAFPolicy) (reason message : String) :
    ∃ c, Apimeta.findStatusCondition (notAcceptedConditions now policy reason message) "Accepted" = some c ∧
      c.status = .conditionFalse ∧ c.reason = reason := by
  unfold notAcceptedConditions
  rw [Apimeta.findStatusCondition_removeStatusCondition, if_neg (by decide)]
  obtain ⟨c, hc, hs, hr, -⟩ := Apimeta.exists_findStatusCondition_setStatusCondition policy.conditions
    { type := "Accepted", status := .conditionFalse, observedGeneration := policy.generation,
      lastTransitionTime := now, reason, message }
  exact ⟨c, hc, hs, hr⟩

end targets

/-! ### `Reconcile` -/

section reconcile

variable (cfg : WAFPolicyTranslatorConfig) (now : Time) {policy : WAFPolicy}

/-- The policy a live pass goes on with after the finalizer step: as read when it carries the
finalizer, and otherwise as the update stored it. -/
def finalizerStep (s : Store) (policy : WAFPolicy) : WAFPolicy × Store × List Event :=
  if containsFinalizer policy.finalizers wafPolicyFinalizer then
    (policy, s, [⟨.getPolicy policy.key, .ok policy⟩])
  else
    let sent := { policy with finalizers := addFinalizer policy.finalizers wafPolicyFinalizer }
    let stored := s.updatedPolicy policy sent
    (stored, s.setPolicy policy.key (some stored),
      [⟨.updatePolicy sent, .ok stored⟩, ⟨.getPolicy policy.key, .ok policy⟩])

section finalizerStep

variable {s : Store} {policy : WAFPolicy}

theorem finalizerStep_of_mem (hf : wafPolicyFinalizer ∈ policy.finalizers) :
    finalizerStep s policy = (policy, s, [⟨.getPolicy policy.key, .ok policy⟩]) := by
  simp [finalizerStep, containsFinalizer, hf]

theorem finalizerStep_stored (h : s.policies policy.key = some policy) :
    (finalizerStep s policy).2.1.policies policy.key = some (finalizerStep s policy).1 := by
  unfold finalizerStep
  split_ifs <;> simp [h]

@[simp] theorem finalizerStep_engines : (finalizerStep s policy).2.1.engines = s.engines := by
  unfold finalizerStep; split_ifs <;> rfl

@[simp] theorem finalizerStep_objects : (finalizerStep s policy).2.1.objects = s.objects := by
  unfold finalizerStep; split_ifs <;> rfl

@[simp] theorem finalizerStep_namespaced : (finalizerStep s policy).2.1.namespaced = s.namespaced := by
  unfold finalizerStep; split_ifs <;> rfl

theorem finalizerStep_policy (hlive : policy.deletionTimestamp = none) :
    ∃ rv, (finalizerStep s policy).1 =
      { policy with finalizers := addFinalizer policy.finalizers wafPolicyFinalizer, resourceVersion := rv } := by
  unfold finalizerStep
  split_ifs with hf
  · refine ⟨policy.resourceVersion, ?_⟩
    simp only [containsFinalizer, decide_eq_true_eq] at hf
    simp only [addFinalizer, hf, if_true]
  · exact ⟨s.revision, by simp [Store.updatedPolicy, hlive]⟩

theorem finalizerStep_key (hlive : policy.deletionTimestamp = none) :
    (finalizerStep s policy).1.key = policy.key := by
  obtain ⟨rv, h⟩ := finalizerStep_policy (s := s) hlive
  rw [h]
  rfl

theorem finalizerStep_stored_self (h : s.policies policy.key = some policy)
    (hlive : policy.deletionTimestamp = none) :
    (finalizerStep s policy).2.1.policies (finalizerStep s policy).1.key =
      some (finalizerStep s policy).1 := by
  rw [finalizerStep_key hlive]
  exact finalizerStep_stored h

theorem finalizerStep_engineFor (hlive : policy.deletionTimestamp = none) :
    engineFor (finalizerStep s policy).1 = engineFor policy := by
  obtain ⟨rv, hp⟩ := finalizerStep_policy (s := s) hlive
  rw [hp]
  rfl

theorem wellFormed_finalizerStep (hs : s.WellFormed) (h : s.policies policy.key = some policy)
    (hlive : policy.deletionTimestamp = none) : (finalizerStep s policy).2.1.WellFormed := by
  unfold finalizerStep
  split_ifs
  · exact hs
  · have := hs.exec (.updatePolicy { policy with
      finalizers := addFinalizer policy.finalizers wafPolicyFinalizer })
    simpa only [Store.exec, s.updatePolicy_finalizers h hlive] using this

theorem finalizerStep_events (ev : Event) (hev : ev ∈ (finalizerStep s policy).2.2) :
    ev.error? = none ∧ ∀ e, ev.call ≠ .createEngine e ∧ ev.call ≠ .updateEngine e := by
  unfold finalizerStep at hev
  split_ifs at hev <;> simp at hev <;> rcases hev with rfl | rfl <;> simp [Event.error?]

end finalizerStep

/-- A live pass is the finalizer step, then the pass for the target. -/
theorem run_reconcile_live (h : s.policies policy.key = some policy)
    (hlive : policy.deletionTimestamp = none) :
    (reconcile cfg now policy.key).run s σ =
      (reconcileTarget cfg now (finalizerStep s policy).1).run (finalizerStep s policy).2.1
        ((finalizerStep s policy).2.2 ++ σ) := by
  have hdel : policy.deletionTimestamp.isSome = false := by rw [hlive]; rfl
  simp only [reconcile, getPolicy, run_bind, run_call, Store.exec, Store.getPolicy, h, run_ret, hdel,
    Bool.false_eq_true, if_false, finalizerStep]
  split_ifs
  · rfl
  · simp only [updatePolicy, run_bind, run_call, Store.exec, s.updatePolicy_finalizers h hlive,
      run_ret]
    rfl

end reconcile

end Controller

end CorazaOperator
