import CorazaOperator.Proof.Resolution

/-!
# What a pass returns

`Reconcile` returns an error for a failed call and a requeue for a missing target. Over every reply
the API server could give to every call of a pass, `reconcile_outcome` says which, read off the
pass's own history:

* it returns an error exactly when a call failed (a read answered `NotFound` apart), or the read of
  its Engine found one that another object controls, which the upsert refuses;
* an API error it returns is the error of such a call, so a `NotFound` is returned when a write got
  it: the finalizer update, an Engine create or update, a status patch;
* any other error is `SetControllerReference`'s AlreadyOwned, after such a read;
* it asks to be requeued exactly when it looked its target up and found nothing.

The refusal is not a failed call: `reconcile_errors_without_failed_call` is a pass whose every call
succeeds and that returns an error.
-/

namespace CorazaOperator

namespace Event

/-- A call that failed, other than a read that found nothing. -/
def Failed (ev : Event) : Prop :=
  ∃ err, ev.error? = some err ∧ (¬err.IsNotFound ∨ ev.call.IsWrite)

/-- A read of a Gateway or an HTTPRoute that found nothing. -/
def TargetNotFound (ev : Event) : Prop :=
  (∃ gvk key, ev.call = .get gvk key) ∧ ∃ err, ev.error? = some err ∧ err.IsNotFound

/-- A read of the Engine named for a policy that found one another object controls: the Engine the
upsert of that policy's Engine refuses. -/
def EngineRefused : Event → Prop
  | ⟨.getEngine key, .ok existing⟩ =>
    ∃ policy, key = (Controller.engineFor policy).key ∧
      Controller.ControlledByOther policy existing.ownerReferences
  | _ => False

variable {c : Call}

@[simp] theorem failed_ok (r : c.Result) : ¬Failed ⟨c, .ok r⟩ := by
  simp [Failed, error?]

@[simp] theorem failed_error (err : ApiError) :
    Failed ⟨c, .error err⟩ ↔ ¬err.IsNotFound ∨ c.IsWrite := by
  simp [Failed, error?]

@[simp] theorem targetNotFound_ok (r : c.Result) : ¬TargetNotFound ⟨c, .ok r⟩ := by
  simp [TargetNotFound, error?]

@[simp] theorem engineRefused_error (err : ApiError) : ¬EngineRefused ⟨c, .error err⟩ := by
  cases c <;> exact id

@[simp] theorem targetNotFound_error (err : ApiError) :
    TargetNotFound ⟨c, .error err⟩ ↔ (∃ gvk key, c = .get gvk key) ∧ err.IsNotFound := by
  simp [TargetNotFound, error?]

end Event

namespace Controller

open Prog Controllerutil

/-- A history in which no call failed, no Engine read was refused and no target was missing. -/
def Quiet (σ : List Event) : Prop := ∀ ev ∈ σ, (¬ev.Failed ∧ ¬ev.EngineRefused) ∧ ¬ev.TargetNotFound

/-- What the error a step returns says about the history `σ`: there is one when a call failed or an
Engine read found an Engine another object controls; an API error is the error of a failed call;
and any other error is the refusal of such an Engine, after it was read. -/
structure ErrorOutcome (err : Option ReconcileError) (σ : List Event) : Prop where
  error_of_failed : (∃ ev ∈ σ, ev.Failed) → err.isSome
  error_of_refused : (∃ ev ∈ σ, ev.EngineRefused) → err.isSome
  api_error : ∀ e, err = some (.api e) →
    ∃ ev ∈ σ, ev.error? = some e ∧ (¬e.IsNotFound ∨ ev.call.IsWrite)
  refused : ∀ r, err = some r → (∀ e, r ≠ .api e) →
    (∃ ns name owner, r = .controllerReference (.alreadyOwned ns name owner)) ∧
      ∃ ev ∈ σ, ev.EngineRefused

/-- What the result of a pass says about its history `σ`: its error as above, and a requeue exactly
when a target was not found. -/
structure Outcome (out : Result × Option ReconcileError) (σ : List Event) extends
    ErrorOutcome out.2 σ : Prop where
  requeue_iff : out.1.requeue = true ↔ ∃ ev ∈ σ, ev.TargetNotFound

section Leaves

variable {σ : List Event}

theorem Quiet.cons_ok (h : Quiet σ) {c : Call} (r : c.Result) (hr : ¬Event.EngineRefused ⟨c, .ok r⟩) :
    Quiet (⟨c, .ok r⟩ :: σ) :=
  List.forall_mem_cons.2 ⟨⟨⟨Event.failed_ok r, hr⟩, Event.targetNotFound_ok r⟩, h⟩

theorem quiet_nil : Quiet [] := fun _ h => absurd h (List.not_mem_nil _)

theorem errorOutcome_none (hfail : ∀ ev ∈ σ, ¬ev.Failed ∧ ¬ev.EngineRefused) : ErrorOutcome none σ where
  error_of_failed := fun ⟨ev, hev, hf⟩ => absurd hf (hfail ev hev).1
  error_of_refused := fun ⟨ev, hev, hr⟩ => absurd hr (hfail ev hev).2
  api_error _ h := Option.noConfusion h
  refused _ h := Option.noConfusion h

theorem ErrorOutcome.not_failed (h : ErrorOutcome none σ) : ∀ ev ∈ σ, ¬ev.Failed ∧ ¬ev.EngineRefused :=
  fun ev hev => ⟨fun hf => absurd (h.error_of_failed ⟨ev, hev, hf⟩) Bool.false_ne_true,
    fun hr => absurd (h.error_of_refused ⟨ev, hev, hr⟩) Bool.false_ne_true⟩

theorem errorOutcome_api {ev : Event} (hev : ev ∈ σ) {err : ApiError} (herr : ev.error? = some err)
    (hf : ¬err.IsNotFound ∨ ev.call.IsWrite) : ErrorOutcome (some (.api err)) σ where
  error_of_failed _ := rfl
  error_of_refused _ := rfl
  api_error _ h := by
    cases h
    exact ⟨ev, hev, herr, hf⟩
  refused _ h hr := absurd (Option.some.inj h).symm (hr err)

theorem errorOutcome_alreadyOwned {ev : Event} (hev : ev ∈ σ) (hfound : ev.EngineRefused)
    (ns name : String) (owner : OwnerReference) :
    ErrorOutcome (some (.controllerReference (.alreadyOwned ns name owner))) σ where
  error_of_failed _ := rfl
  error_of_refused _ := rfl
  api_error _ h := ReconcileError.noConfusion (Option.some.inj h)
  refused _ h _ := by
    cases h
    exact ⟨⟨ns, name, owner, rfl⟩, ev, hev, hfound⟩

theorem ErrorOutcome.cons {err : ReconcileError} (h : ErrorOutcome (some err) σ) (ev : Event) :
    ErrorOutcome (some err) (ev :: σ) where
  error_of_failed _ := rfl
  error_of_refused _ := rfl
  api_error e he :=
    let ⟨ev', hev', hrest⟩ := h.api_error e he
    ⟨ev', List.mem_cons_of_mem _ hev', hrest⟩
  refused r hr hne :=
    let ⟨hown, ev', hev', hfound⟩ := h.refused r hr hne
    ⟨hown, ev', List.mem_cons_of_mem _ hev', hfound⟩

theorem requeue_default_iff (h : ∀ ev ∈ σ, ¬ev.TargetNotFound) :
    ({} : Result).requeue = true ↔ ∃ ev ∈ σ, ev.TargetNotFound :=
  ⟨fun h' => absurd h' Bool.false_ne_true, fun ⟨ev, hev, ht⟩ => absurd ht (h ev hev)⟩

theorem exists_targetNotFound_cons {ev : Event} (h : ¬ev.TargetNotFound) :
    (∃ e ∈ ev :: σ, e.TargetNotFound) ↔ ∃ e ∈ σ, e.TargetNotFound := by
  simp [h]

theorem outcome_api_head (hσ : ∀ ev ∈ σ, ¬ev.TargetNotFound) {c : Call} {err : ApiError}
    (hc : ∀ gvk key, c ≠ .get gvk key) (hf : ¬err.IsNotFound ∨ c.IsWrite) :
    Outcome ({}, some (.api err)) (⟨c, .error err⟩ :: σ) where
  toErrorOutcome := errorOutcome_api (List.mem_cons_self _ _) rfl hf
  requeue_iff := requeue_default_iff (List.forall_mem_cons.2 ⟨fun ⟨⟨gvk, key, h⟩, _⟩ => hc gvk key h, hσ⟩)

end Leaves

/-! ### One lemma per function of the pass -/

section Functions

variable {σ : List Event} (cfg : WAFPolicyTranslatorConfig) (now : Time) (policy : WAFPolicy)
  (labels : List (String × String))

theorem wp_notAccepted {result : Result} (reason message : String)
    (hfail : ∀ ev ∈ σ, ¬ev.Failed ∧ ¬ev.EngineRefused)
    (hreq : result.requeue = true ↔ ∃ ev ∈ σ, ev.TargetNotFound) :
    WP (fun _ _ => True) (notAccepted now policy result reason message) σ Outcome := by
  simp only [notAccepted, setNotAccepted, patchStatus, wp_bind, wp_call, wp_ret, wp_pure, true_and]
  intro r _
  have hreq' := hreq.trans (@exists_targetNotFound_cons σ ⟨_, r⟩ (by cases r <;> simp)).symm
  cases r with
  | error err => exact ⟨errorOutcome_api (List.mem_cons_self _ _) rfl (.inr trivial), hreq'⟩
  | ok _ => exact ⟨errorOutcome_none (List.forall_mem_cons.2 ⟨⟨Event.failed_ok _, id⟩, hfail⟩), hreq'⟩

theorem wp_handleDeletion (hσ : Quiet σ) :
    WP (fun _ _ => True) (handleDeletion policy) σ Outcome := by
  unfold handleDeletion
  split_ifs
  · simp only [updatePolicy, wp_bind, wp_call, wp_ret, wp_pure, true_and]
    intro r _
    cases r with
    | error err => exact outcome_api_head (fun ev hev => (hσ ev hev).2) (by simp) (.inr trivial)
    | ok p =>
      have hq := hσ.cons_ok p id
      exact ⟨errorOutcome_none fun ev hev => (hq ev hev).1,
        requeue_default_iff fun ev hev => (hq ev hev).2⟩
  · exact ⟨errorOutcome_none fun ev hev => (hσ ev hev).1,
      requeue_default_iff fun ev hev => (hσ ev hev).2⟩

def upsertError : Except ReconcileError OperationResult → Option ReconcileError
  | .error err => some err
  | .ok _ => none

theorem mutate_error_alreadyOwned {existing : Engine} (hkey : existing.key = (engineFor policy).key)
    {r : ReconcileError}
    (h : mutate (mutateEngine cfg policy labels) (engineFor policy).key existing = .error r) :
    ControlledByOther policy existing.ownerReferences ∧
      ∃ ns name owner, r = .controllerReference (.alreadyOwned ns name owner) := by
  have hns : existing.namespace = policy.namespace := congrArg ObjectKey.namespace hkey
  rw [← hkey] at h
  by_cases hown : ControlledByOther policy existing.ownerReferences
  · obtain ⟨c, hc, hne⟩ := hown
    rw [mutate_controlledByOther hns hc hne] at h
    cases h
    exact ⟨⟨c, hc, hne⟩, _, _, _, rfl⟩
  · rw [mutate_owned hns hown] at h
    cases h

theorem not_engineRefused_of_mutate_ok {existing obj : Engine} (hkey : existing.key = (engineFor policy).key)
    (h : mutate (mutateEngine cfg policy labels) (engineFor policy).key existing = .ok obj) :
    ¬Event.EngineRefused ⟨.getEngine (engineFor policy).key, .ok existing⟩ := by
  rintro ⟨p, hp, hcb⟩
  have hname : p.name = policy.name := congrArg ObjectKey.name (engineFor_key_inj hp.symm)
  obtain ⟨c, hc, hne⟩ := (controlledByOther_name_congr hname _).1 hcb
  have hns : existing.namespace = policy.namespace := congrArg ObjectKey.namespace hkey
  rw [← hkey, mutate_controlledByOther hns hc hne] at h
  cases h

theorem wp_createOrUpdateEngine (hσ : Quiet σ) :
    WP (fun _ _ => True) (createOrUpdateEngine (engineFor policy) (mutateEngine cfg policy labels)) σ
      fun res σ' => ErrorOutcome (upsertError res) σ' ∧ ∀ ev ∈ σ', ¬ev.TargetNotFound := by
  have hnt : ∀ ev ∈ σ, ¬ev.TargetNotFound := fun ev hev => (hσ ev hev).2
  have hcreate : mutate (mutateEngine cfg policy labels) (engineFor policy).key (engineFor policy) =
      .ok (ownedEngine cfg policy labels (engineFor policy)) :=
    mutate_owned rfl not_controlledByOther_nil
  simp only [createOrUpdateEngine, getEngine, wp_bind, wp_call, wp_ret, true_and]
  intro r hr
  cases r with
  | error err =>
    by_cases hnf : err.IsNotFound
    · simp only [hnf, not_true_eq_false, if_false, hcreate, createEngine, wp_bind, wp_call, wp_ret,
        wp_pure, true_and]
      intro r' _
      cases r' with
      | error e => exact ⟨errorOutcome_api (List.mem_cons_self _ _) rfl (.inr trivial),
          List.forall_mem_cons.2 ⟨by simp, List.forall_mem_cons.2 ⟨by simp, hnt⟩⟩⟩
      | ok _ => exact ⟨errorOutcome_none (List.forall_mem_cons.2 ⟨⟨Event.failed_ok _, id⟩,
          List.forall_mem_cons.2 ⟨by simp [hnf, Call.IsWrite], fun ev hev => (hσ ev hev).1⟩⟩),
          List.forall_mem_cons.2 ⟨by simp, List.forall_mem_cons.2 ⟨by simp, hnt⟩⟩⟩
    · simp only [hnf, not_false_eq_true, if_true, wp_pure]
      exact ⟨errorOutcome_api (List.mem_cons_self _ _) rfl (.inl hnf),
        List.forall_mem_cons.2 ⟨by simp, hnt⟩⟩
  | ok existing =>
    dsimp only
    cases hm : mutate (mutateEngine cfg policy labels) (engineFor policy).key existing with
    | error r' =>
      obtain ⟨hcb, ns, name, owner, rfl⟩ := mutate_error_alreadyOwned cfg policy labels hr hm
      have hrefused : Event.EngineRefused ⟨.getEngine (engineFor policy).key, .ok existing⟩ :=
        ⟨policy, rfl, hcb⟩
      dsimp only
      exact ⟨errorOutcome_alreadyOwned (List.mem_cons_self _ _) hrefused ns name owner,
        List.forall_mem_cons.2 ⟨Event.targetNotFound_ok _, hnt⟩⟩
    | ok obj =>
      have hq := hσ.cons_ok existing (not_engineRefused_of_mutate_ok cfg policy labels hr hm)
      dsimp only
      split_ifs
      · exact ⟨errorOutcome_none fun ev hev => (hq ev hev).1, fun ev hev => (hq ev hev).2⟩
      · simp only [updateEngine, wp_bind, wp_call, wp_ret, wp_pure, true_and]
        intro r' _
        cases r' with
        | error e => exact ⟨errorOutcome_api (List.mem_cons_self _ _) rfl (.inr trivial),
            List.forall_mem_cons.2 ⟨by simp, fun ev hev => (hq ev hev).2⟩⟩
        | ok u =>
          have hq' := hq.cons_ok u id
          exact ⟨errorOutcome_none fun ev hev => (hq' ev hev).1, fun ev hev => (hq' ev hev).2⟩

theorem wp_ensureEngine (hσ : Quiet σ) :
    WP (fun _ _ => True) (ensureEngine cfg now policy labels) σ Outcome := by
  simp only [ensureEngine, wp_bind]
  refine (wp_createOrUpdateEngine cfg policy labels hσ).mono fun res σ' ⟨hres, hnt⟩ => ?_
  cases res with
  | error err =>
    simp only [patchStatus, wp_bind, wp_call, wp_ret, wp_pure, true_and]
    intro r _
    exact ⟨hres.cons _, requeue_default_iff (List.forall_mem_cons.2 ⟨by cases r <;> simp, hnt⟩)⟩
  | ok result =>
    simp only [patchStatus, wp_bind, wp_call, wp_ret, wp_pure, true_and]
    intro r _
    cases r with
    | error e => exact outcome_api_head hnt (by simp) (.inr trivial)
    | ok u =>
      exact ⟨errorOutcome_none (List.forall_mem_cons.2 ⟨⟨Event.failed_ok u, id⟩, hres.not_failed⟩),
        requeue_default_iff (List.forall_mem_cons.2 ⟨Event.targetNotFound_ok u, hnt⟩)⟩

theorem notAccepted_after_missing (hσ : Quiet σ) {gvk : GroupVersionKind} {key : ObjectKey}
    {err : ApiError} (hnf : err.IsNotFound) (reason message : String) :
    WP (fun _ _ => True) (notAccepted now policy { requeue := true } reason message)
      (⟨.get gvk key, .error err⟩ :: σ) Outcome :=
  wp_notAccepted now policy reason message
    (List.forall_mem_cons.2 ⟨by simp [hnf, Call.IsWrite], fun ev hev => (hσ ev hev).1⟩)
    ⟨fun _ => ⟨_, List.mem_cons_self _ _, by simp [hnf]⟩, fun _ => rfl⟩

theorem outcome_target_failed (hσ : Quiet σ) {gvk : GroupVersionKind} {key : ObjectKey}
    {err : ApiError} (hnf : ¬err.IsNotFound) :
    Outcome ({}, some (.api err)) (⟨.get gvk key, .error err⟩ :: σ) where
  toErrorOutcome := errorOutcome_api (List.mem_cons_self _ _) rfl (.inl hnf)
  requeue_iff := requeue_default_iff (List.forall_mem_cons.2 ⟨by simp [hnf],
    fun ev hev => (hσ ev hev).2⟩)

theorem wp_reconcileForGateway (hσ : Quiet σ) :
    WP (fun _ _ => True) (reconcileForGateway cfg now policy) σ Outcome := by
  simp only [reconcileForGateway, Controller.get, wp_bind, wp_call, wp_ret, true_and]
  intro r _
  cases r with
  | error err =>
    dsimp only
    split_ifs with hnf
    · exact notAccepted_after_missing now policy hσ hnf _ _
    · exact outcome_target_failed hσ hnf
  | ok obj => exact wp_ensureEngine cfg now policy _ (hσ.cons_ok obj id)

theorem wp_reconcileForHTTPRoute (hσ : Quiet σ) :
    WP (fun _ _ => True) (reconcileForHTTPRoute cfg now policy) σ Outcome := by
  simp only [reconcileForHTTPRoute, Controller.get, wp_bind, wp_call, wp_ret, true_and]
  intro r _
  cases r with
  | error err =>
    dsimp only
    split_ifs with hnf
    · exact notAccepted_after_missing now policy hσ hnf _ _
    · exact outcome_target_failed hσ hnf
  | ok route =>
    have hq := hσ.cons_ok route id
    dsimp only
    split
    · exact wp_notAccepted now policy _ _ (fun ev hev => (hq ev hev).1)
        (requeue_default_iff fun ev hev => (hq ev hev).2)
    · exact wp_ensureEngine cfg now policy _ hq

theorem wp_reconcileTarget (hσ : Quiet σ) :
    WP (fun _ _ => True) (reconcileTarget cfg now policy) σ Outcome := by
  unfold reconcileTarget
  dsimp only
  split_ifs
  · exact wp_reconcileForGateway cfg now policy hσ
  · exact wp_reconcileForHTTPRoute cfg now policy hσ
  · exact wp_notAccepted now policy _ _ (fun ev hev => (hσ ev hev).1)
      (requeue_default_iff fun ev hev => (hσ ev hev).2)

end Functions

/-- Over every reply to every call, what a pass returns is explained by its history: an error
exactly when a call failed or its Engine read found an Engine another object controls, and a
requeue exactly when the target was missing. -/
theorem reconcile_outcome (cfg : WAFPolicyTranslatorConfig) (now : Time) (req : ObjectKey) :
    WP (fun _ _ => True) (reconcile cfg now req) [] Outcome := by
  simp only [reconcile, getPolicy, wp_bind, wp_call, wp_ret, true_and]
  intro r _
  cases r with
  | error err =>
    dsimp only
    split_ifs with hnf
    · exact ⟨errorOutcome_none (by simp [hnf, Call.IsWrite]), requeue_default_iff (by simp)⟩
    · exact outcome_api_head (by simp) (by simp) (.inl hnf)
  | ok policy =>
    have hq := quiet_nil.cons_ok policy id
    dsimp only
    split_ifs
    · exact wp_handleDeletion policy hq
    · exact wp_reconcileTarget cfg now policy hq
    · simp only [updatePolicy, wp_bind, wp_call, wp_ret, true_and]
      intro r _
      cases r with
      | error err => exact outcome_api_head (fun ev hev => (hq ev hev).2) (by simp) (.inr trivial)
      | ok p => exact wp_reconcileTarget cfg now p (hq.cons_ok p id)


/-- The policy `waf` of `default`, live and carrying its finalizer, on the Gateway `gw`. -/
def ownedElsewherePolicy : WAFPolicy where
  «namespace» := "default"
  name := "waf"
  uid := "waf-uid"
  finalizers := [wafPolicyFinalizer]
  spec := { targetRef := { kind := "Gateway", name := "gw" } }

def ownedElsewhereGateway : Unstructured where
  gvk := gatewayGVK
  «namespace» := "default"
  name := "gw"
  resourceVersion := 1

/-- The policy's Engine, controlled by another object. -/
def foreignEngine : Engine where
  «namespace» := "default"
  name := "wafpolicy-waf"
  resourceVersion := 2
  ownerReferences := [foreignController]

/-- The policy, its Gateway, and at the policy's Engine key an Engine another object controls. -/
def ownedElsewhereStore : Store where
  policies key := if key = ownedElsewherePolicy.key then some ownedElsewherePolicy else none
  engines key := if key = foreignEngine.key then some foreignEngine else none
  objects gvk key :=
    if gvk = gatewayGVK ∧ key = ownedElsewhereGateway.key then some ownedElsewhereGateway else none
  namespaced _ := true
  revision := 3

/-- The policy `waf` of `default`, live and without its finalizer. -/
def unfinalizedPolicy : WAFPolicy where
  «namespace» := "default"
  name := "waf"
  spec := { targetRef := { kind := "Gateway", name := "gw" } }

/-- A server that reads `unfinalizedPolicy` and answers `NotFound` from then on, as when the policy
is deleted before the finalizer is added. -/
def deletedBeforeUpdate : (c : Call) → c.Reply
  | .getPolicy _ => .ok unfinalizedPolicy
  | _ => .error (Store.notFound Store.wafpoliciesResource "waf")

/-- Two passes whose error is not a failed read: one whose every call succeeds returns
AlreadyOwned, and one whose finalizer update is answered `NotFound` returns that `NotFound`. -/
theorem reconcile_errors_without_failed_call :
    List.map Event.error?
        ((reconcile testTranslatorConfig 0 ownedElsewherePolicy.key).run ownedElsewhereStore []).2.2 =
      [none, none, none, none] ∧
    ((reconcile testTranslatorConfig 0 ownedElsewherePolicy.key).run ownedElsewhereStore []).1.2 =
      some (.controllerReference (.alreadyOwned "default" "wafpolicy-waf" foreignController)) ∧
    List.map Event.error? ((reconcile testTranslatorConfig 0 unfinalizedPolicy.key).runBy
        deletedBeforeUpdate []).2 = [some (Store.notFound Store.wafpoliciesResource "waf"), none] ∧
    ((reconcile testTranslatorConfig 0 unfinalizedPolicy.key).runBy deletedBeforeUpdate []).1.2 =
      some (.api (Store.notFound Store.wafpoliciesResource "waf")) :=
  ⟨rfl, rfl, rfl, rfl⟩

end Controller

end CorazaOperator
