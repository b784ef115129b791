import CorazaOperator.System.PassRules
import CorazaOperator.Proof.Resolution

/-!
# The finalizer guards every write of a pass

`Reconcile` adds `waf.k8s.coraza.io/wafpolicy-finalizer` to a live policy before it looks at the
target, and `handleDeletion` removes it from a deleted one and does nothing else. The results below
are over the interleaved system: passes of `Reconcile` for any key, any call failing, and deletion
requests of other clients between any two steps.

* Only an update takes a finalizer off a stored policy (`Store.PolicyChange.finalizer_mem`), and an
  update by the pass stores what the pass then holds; so whenever the pass holds a policy carrying
  the finalizer, the store holds it carrying the finalizer too (`FinalizerHeld`). Every Engine write
  and status patch comes after such a read, so it finds the finalizer stored.
* After reading a live policy without the finalizer, a pass adds it before it reads any target;
  after reading a policy with a deletion timestamp, it makes at most the one update that removes
  the finalizer. Every Engine a pass writes is named for a policy it read live.
* A pass adds the finalizer only to a policy it holds live, and by `Store.PolicyChange.update_issued`
  its update lands on exactly that policy, so no step puts the finalizer on a policy being deleted.
  Once deletion of a policy was requested, the timestamp stays, every later read returns it, and so
  no pass started later writes the policy's Engine.
-/

namespace CorazaOperator

namespace Store

variable {s : Store} {key : ObjectKey} {c : Call} {old new : Option WAFPolicy} {f : String}

theorem PolicyChange.finalizer_mem {P : WAFPolicy} (h : PolicyChange s key c (some P) new)
    (hc : ∀ sent, c ≠ .updatePolicy sent) (hf : f ∈ P.finalizers) :
    ∃ P', new = some P' ∧ f ∈ P'.finalizers := by
  cases h with
  | keep => exact ⟨P, rfl, hf⟩
  | update hc' => exact absurd hc' (hc _)
  | release hc' => exact absurd hc' (hc _)
  | patch => exact ⟨_, rfl, hf⟩
  | remove _ hfin => simp [hfin] at hf
  | markDeleted => exact ⟨_, rfl, hf⟩

theorem PolicyChange.finalizer_of_deleting {P' : WAFPolicy} (h : PolicyChange s key c old (some P'))
    (hc : ∀ sent, c ≠ .updatePolicy sent) (hdel : P'.deletionTimestamp.isSome)
    (hf : f ∈ P'.finalizers) : ∃ P, old = some P ∧ f ∈ P.finalizers := by
  cases h with
  | keep => exact ⟨P', rfl, hf⟩
  | update hc' => exact absurd hc' (hc _)
  | patch => exact ⟨_, rfl, hf⟩
  | create => simp at hdel
  | markDeleted => exact ⟨_, rfl, hf⟩

theorem PolicyChange.deleting (h : PolicyChange s key c old new) (hc : ∀ p, c ≠ .createPolicy p)
    (hold : ∀ P, old = some P → P.deletionTimestamp.isSome) :
    ∀ P', new = some P' → P'.deletionTimestamp.isSome := by
  cases h with
  | keep => exact hold
  | @update _ cur => rintro _ ⟨⟩; exact hold cur rfl
  | release | remove => rintro _ ⟨⟩
  | @patch cur => rintro _ ⟨⟩; exact hold cur rfl
  | create hc' => exact absurd hc' (hc _)
  | markDeleted _ _ hlive => simp [hlive] at hold

end Store

namespace Controller

open World Prog Controllerutil

/-- A deletion request of another client. -/
def DeletionRequest (c : Call) : Prop := ∃ key now, c = .deletePolicy key now

theorem deletionRequest_not_updatePolicy {c : Call} (hc : DeletionRequest c) (sent : WAFPolicy) :
    c ≠ .updatePolicy sent := by
  obtain ⟨_, _, rfl⟩ := hc
  exact Call.noConfusion

theorem deletionRequest_not_createPolicy {c : Call} (hc : DeletionRequest c) (p : WAFPolicy) :
    c ≠ .createPolicy p := by
  obtain ⟨_, _, rfl⟩ := hc
  exact Call.noConfusion

/-! ### The finalizer is stored before an Engine write or a status patch -/

section held

variable {cfg : WAFPolicyTranslatorConfig} {Foreign : Call → Prop}
  (hforeign : ∀ c, Foreign c → ∀ sent, c ≠ .updatePolicy sent)
  {w w' : World (Result × Option ReconcileError)}

/-- The policy the pass in progress holds, when it carries the finalizer, is stored carrying it. -/
def FinalizerHeld (w : World (Result × Option ReconcileError)) : Prop :=
  ∀ p σ, w.pass = some (p, σ) → ∀ held, heldPolicy σ = some held →
    wafPolicyFinalizer ∈ held.finalizers →
    ∃ P, w.store.policies held.key = some P ∧ wafPolicyFinalizer ∈ P.finalizers

include hforeign in
theorem finalizerHeld_step (h : Step (ReconcileStarts cfg) Foreign w w')
    (hw : w.store.WellFormed) (hheld : FinalizerHeld w) : FinalizerHeld w' := by
  cases h with
  | start => intro p σ h held hσ; cases h; cases hσ
  | call =>
    rename_i s c k σ
    intro p σ' h held hσ' hf
    cases h
    rcases heldPolicy_cons hσ' with hev | ⟨hnot, hσ⟩
    · exact ⟨held, (Store.exec_reply_policy hw c hev).2 (List.ne_nil_of_mem hf), hf⟩
    obtain ⟨P, hP, hfP⟩ := hheld _ _ rfl held hσ hf
    by_cases hup : ∃ sent, c = .updatePolicy sent
    · obtain ⟨sent, rfl⟩ := hup
      cases hr : (s.exec (.updatePolicy sent)).1 with
      | error err => exact ⟨P, by rw [Store.exec_error hr]; exact hP, hfP⟩
      | ok p' => exact (hnot p' (by rw [hr]; rfl)).elim
    · exact (Store.exec_policyChange_of_stored hP c).finalizer_mem
        (fun sent hc => hup ⟨sent, hc⟩) hfP
  | fail err =>
    intro p σ' h held hσ' hf
    cases h
    exact hheld _ _ rfl held (by simpa using hσ') hf
  | finish => intro p σ h; cases h
  | @foreign s _ c hc =>
    intro p σ h held hσ hf
    obtain ⟨P, hP, hfP⟩ := hheld p σ h held hσ hf
    exact (Store.exec_policyChange_of_stored hP c).finalizer_mem (hforeign _ hc) hfP

include hforeign in
theorem finalizerHeld_reachable {s : Store} (hs : s.WellFormed)
    (h : Reachable (ReconcileStarts cfg) Foreign ⟨s, none⟩ w) : FinalizerHeld w := by
  induction h with
  | refl => intro p σ h; cases h
  | tail hr hstep ih => exact finalizerHeld_step hforeign hstep (hr.wellFormed hs) ih

end held

/-- A call that writes an Engine or patches a status finds the finalizer on the policy stored at
the key it acts for. -/
def GuardedByFinalizer (st : Store) (c : Call) : Prop :=
  (∀ e, c = .createEngine e ∨ c = .updateEngine e → ∃ held P, e.key = (engineFor held).key ∧
    st.policies held.key = some P ∧ wafPolicyFinalizer ∈ P.finalizers) ∧
  ∀ key patch, c = .patchPolicyStatus key patch →
    ∃ P, st.policies key = some P ∧ wafPolicyFinalizer ∈ P.finalizers

theorem guardedByFinalizer_of_holdsLive {st : Store} {σ : List Event} {c : Call}
    (hrules : PassRules σ c)
    (hheld : ∀ held, HoldsLive σ held →
      ∃ P, st.policies held.key = some P ∧ wafPolicyFinalizer ∈ P.finalizers) :
    GuardedByFinalizer st c := by
  refine ⟨fun e he => ?_, fun key patch hc => ?_⟩
  · obtain ⟨held, hlive, hkey⟩ := hrules.engine_write e he
    obtain ⟨P, hP, hf⟩ := hheld held hlive
    exact ⟨held, P, hkey, hP, hf⟩
  · obtain ⟨held, hlive, rfl⟩ := hrules.status_patch key patch hc
    exact hheld held hlive

/-! ### A pass that reads a deleted policy -/

theorem handleDeletion_shape (policy : WAFPolicy) :
    handleDeletion policy = .ret ({}, none) ∨
      ∃ k, handleDeletion policy = .call (.updatePolicy { policy with
        finalizers := removeFinalizer policy.finalizers wafPolicyFinalizer }) k ∧
        ∀ r, ∃ out, k r = .ret out := by
  unfold handleDeletion
  split_ifs
  · exact .inr ⟨_, rfl, fun r => by cases r <;> exact ⟨_, rfl⟩⟩
  · exact .inl rfl

theorem reconcile_eq_call (cfg : WAFPolicyTranslatorConfig) (now : Time) (key : ObjectKey) :
    ∃ k, reconcile cfg now key = .call (.getPolicy key) k ∧
      ∀ policy : WAFPolicy, policy.deletionTimestamp.isSome → k (.ok policy) = handleDeletion policy :=
  ⟨_, rfl, fun _ hdel => if_pos hdel⟩

/-! ### No step puts the finalizer on a policy being deleted -/

/-- From `s` to `s'`, no policy being deleted gains the finalizer. -/
def FinalizerNotAdded (s s' : Store) : Prop :=
  ∀ key P', s'.policies key = some P' → P'.deletionTimestamp.isSome →
    wafPolicyFinalizer ∈ P'.finalizers →
    ∃ P, s.policies key = some P ∧ wafPolicyFinalizer ∈ P.finalizers

section notAdded

variable {cfg : WAFPolicyTranslatorConfig} {Foreign : Call → Prop}
  (hforeign : ∀ c, Foreign c → ∀ sent, c ≠ .updatePolicy sent)
  {w w' : World (Result × Option ReconcileError)}

theorem finalizerNotAdded_updatePolicy {s : Store} {σ : List Event} {sent : WAFPolicy}
    (hrules : PassRules σ (.updatePolicy sent))
    (hseen : ∀ ev ∈ σ, ∀ o, ev.obj? = some o → s.Issued o) :
    FinalizerNotAdded s (s.exec (.updatePolicy sent)).2 := by
  intro key P' hP' hdel hf
  obtain ⟨held, hheld, hsent⟩ := hrules.update_policy sent rfl
  obtain ⟨ev, hev, ho⟩ := heldPolicy_seen hheld
  have hrv : sent.resourceVersion = held.resourceVersion := by
    rcases hsent with ⟨-, rfl⟩ | ⟨-, rfl⟩ <;> rfl
  rcases (Store.exec_policyChange_to_stored hP').update_issued rfl (hseen ev hev _ ho) hrv with hkeep | ⟨-, hnew | hnew⟩
  · exact ⟨P', hkeep.symm, hf⟩
  · cases hnew
    rcases hsent with ⟨hlive, rfl⟩ | ⟨-, rfl⟩
    · simp [Store.updatedPolicy, hlive] at hdel
    · simp [Store.updatedPolicy] at hf
  · cases hnew

include hforeign in
theorem finalizerNotAdded_step (h : Step (ReconcileStarts cfg) Foreign w w')
    (hd : Disciplined PassRules w) (hseen : SeenIssued w) : FinalizerNotAdded w.store w'.store := by
  cases h with
  | call =>
    rename_i s c k σ
    by_cases hup : ∃ sent, c = .updatePolicy sent
    · obtain ⟨sent, rfl⟩ := hup
      exact finalizerNotAdded_updatePolicy hd.allowed (hseen _ _ rfl)
    · intro key P' hP' hdel hf
      exact (Store.exec_policyChange_to_stored hP').finalizer_of_deleting
        (fun sent hc => hup ⟨sent, hc⟩) hdel hf
  | @foreign s _ c hc =>
    intro key P' hP' hdel hf
    exact (Store.exec_policyChange_to_stored hP').finalizer_of_deleting (hforeign _ hc) hdel hf
  | _ => exact fun key P' hP' _ hf => ⟨P', hP', hf⟩

end notAdded

/-! ### After a deletion request -/

/-- Deletion of the policy at `key` was requested: whatever is stored there is being deleted, and
so is every policy of that key the pass in progress was sent. -/
structure DeletionRequested (key : ObjectKey) (w : World (Result × Option ReconcileError)) :
    Prop where
  stored : ∀ P, w.store.policies key = some P → P.deletionTimestamp.isSome
  sent : ∀ p σ, w.pass = some (p, σ) → ∀ ev ∈ σ, ∀ P, ev.obj? = some (.policy P) → P.key = key →
    P.deletionTimestamp.isSome

section requested

variable {cfg : WAFPolicyTranslatorConfig} {Foreign : Call → Prop}
  (hforeign : ∀ c, Foreign c → ∀ p, c ≠ .createPolicy p) {key : ObjectKey}
  {w w' : World (Result × Option ReconcileError)}

include hforeign in
theorem deletionRequested_step (h : Step (ReconcileStarts cfg) Foreign w w')
    (hw : w.store.WellFormed) (hd : Disciplined PassRules w) (hreq : DeletionRequested key w) :
    DeletionRequested key w' := by
  cases h with
  | start => exact ⟨hreq.stored, fun p σ h ev hev => by cases h; cases hev⟩
  | call =>
    rename_i s c k σ
    refine ⟨(Store.exec_policyChange s c key).deleting hd.allowed.not_createPolicy hreq.stored, ?_⟩
    intro p σ' h ev hev P ho hkey
    cases h
    rcases List.mem_cons.1 hev with rfl | hev
    · obtain ⟨cur, hcur, hdt, -⟩ := (Store.exec_reply_policy hw c ho).1
      rw [← hdt]
      exact hreq.stored cur (hkey ▸ hcur)
    · exact hreq.sent _ _ rfl ev hev P ho hkey
  | fail err =>
    refine ⟨hreq.stored, fun p σ' h ev hev P ho hkey => ?_⟩
    cases h
    rcases List.mem_cons.1 hev with rfl | hev
    · cases ‹Call› <;> cases ho
    · exact hreq.sent _ _ rfl ev hev P ho hkey
  | finish => exact ⟨hreq.stored, fun p σ h => by cases h⟩
  | foreign hc =>
    exact ⟨(Store.exec_policyChange _ _ key).deleting (hforeign _ hc) hreq.stored, hreq.sent⟩

include hforeign in
theorem deletionRequested_reachable {s : Store} (hs : s.WellFormed) {w₀ : World _}
    (h₀ : Reachable (ReconcileStarts cfg) Foreign ⟨s, none⟩ w₀) (hreq : DeletionRequested key w₀)
    (h : Reachable (ReconcileStarts cfg) Foreign w₀ w) : DeletionRequested key w := by
  induction h with
  | refl => exact hreq
  | tail hr hstep ih =>
    exact deletionRequested_step hforeign hstep ((h₀.trans hr).wellFormed hs)
      ((h₀.trans hr).disciplined (reconcileStarts_passRules cfg) hs) ih

end requested

/-- A pass whose every read of `policy`'s key returned it deleted writes no Engine of it. -/
theorem no_engine_write_of_deletionRequested {st : Store} {c : Call}
    {k : c.Reply → Prog (Result × Option ReconcileError)} {σ : List Event} {policy : WAFPolicy}
    (hrules : PassRules σ c) (hreq : DeletionRequested policy.key ⟨st, some (.call c k, σ)⟩)
    (e : Engine) (he : c = .createEngine e ∨ c = .updateEngine e) :
    e.key ≠ (engineFor policy).key := by
  intro hkey
  obtain ⟨held, hlive, hkey'⟩ := hrules.engine_write e he
  obtain ⟨first, hmem, hfirst, hlive'⟩ := hlive.read_live
  have hsame : first.key = policy.key := hfirst.trans (engineFor_key_inj (hkey'.symm.trans hkey))
  have := hreq.sent _ _ rfl _ hmem first rfl hsame
  simp [hlive'] at this

/-! ### The Engine a pass writes -/

/-- In every run from `s`, whatever other clients write and whichever calls fail, every Engine a
pass creates or updates is `wafpolicy-` followed by the name of a policy the pass read live, in
that policy's namespace. -/
theorem reconcile_engine_named_for_policy (cfg : WAFPolicyTranslatorConfig) {s : Store}
    (hs : s.WellFormed) :
    ∀ st c (k : c.Reply → Prog (Result × Option ReconcileError)) σ,
      Reachable (ReconcileStarts cfg) (fun _ => True) ⟨s, none⟩ ⟨st, some (.call c k, σ)⟩ →
      ∀ e, c = .createEngine e ∨ c = .updateEngine e →
        ∃ policy : WAFPolicy, (⟨.getPolicy policy.key, .ok policy⟩ : Event) ∈ σ ∧
          policy.deletionTimestamp = none ∧ e.namespace = policy.namespace ∧
          e.name = EngineNamePrefix ++ policy.name := by
  intro st c k σ hw e he
  obtain ⟨held, hlive, hkey⟩ :=
    (hw.disciplined (reconcileStarts_passRules cfg) hs).allowed.engine_write e he
  obtain ⟨first, hmem, hfirst, hdel⟩ := hlive.read_live
  simp only [engineFor, Engine.key, ObjectKey.mk.injEq] at hkey
  simp only [WAFPolicy.key, ObjectKey.mk.injEq] at hfirst
  exact ⟨first, hmem, hdel, hkey.1.trans hfirst.1.symm, hkey.2.trans (by rw [hfirst.2])⟩

/-- The Engine create a pass on `serviceParentStore` reaches is of the Engine named for the live
policy the pass read. -/
theorem reconcile_engine_named_for_policy_serviceParent :
    ∃ st e k σ, passAfter testTranslatorConfig 0 serviceParentPolicy.key serviceParentStore 3 =
        ⟨st, some (.call (.createEngine e) k, σ)⟩ ∧
      ∃ policy : WAFPolicy, (⟨.getPolicy policy.key, .ok policy⟩ : Event) ∈ σ ∧
        policy.deletionTimestamp = none ∧ e.namespace = policy.namespace ∧
        e.name = EngineNamePrefix ++ policy.name := by
  have hat : passAfter testTranslatorConfig 0 serviceParentPolicy.key serviceParentStore 3 =
      ⟨_, some (.call (.createEngine _) _, _)⟩ := rfl
  have hw := reachable_passAfter (fun _ => True) testTranslatorConfig 0 serviceParentPolicy.key
    serviceParentStore 3
  rw [hat] at hw
  exact ⟨_, _, _, _, hat, reconcile_engine_named_for_policy testTranslatorConfig
    wellFormed_serviceParentStore _ _ _ _ hw _ (.inl rfl)⟩

/-! ### The lifecycle -/

/-- The finalizer's lifecycle over the runs from `s` of `Reconcile` passes, interleaved with
deletion requests and with any call failing: (a) every Engine write and status patch finds the
finalizer stored; (b) a pass that reads its policy deleted makes at most the update that removes
the finalizer; (c) no step puts the finalizer on a policy being deleted, and once deletion of a
policy was requested, no pass started later writes its Engine. -/
structure FinalizerLifecycle (cfg : WAFPolicyTranslatorConfig) (s : Store) : Prop where
  guarded : ∀ st c (k : c.Reply → Prog (Result × Option ReconcileError)) σ,
    Reachable (ReconcileStarts cfg) DeletionRequest ⟨s, none⟩ ⟨st, some (.call c k, σ)⟩ →
    GuardedByFinalizer st c
  deleted_pass : ∀ now key, ∃ k, reconcile cfg now key = .call (.getPolicy key) k ∧
    ∀ policy : WAFPolicy, policy.deletionTimestamp.isSome →
      k (.ok policy) = .ret ({}, none) ∨
      ∃ k', k (.ok policy) = .call (.updatePolicy { policy with
        finalizers := removeFinalizer policy.finalizers wafPolicyFinalizer }) k' ∧
        ∀ r, ∃ out, k' r = .ret out
  not_added : ∀ w w', Reachable (ReconcileStarts cfg) DeletionRequest ⟨s, none⟩ w →
    Step (ReconcileStarts cfg) DeletionRequest w w' → FinalizerNotAdded w.store w'.store
  no_engine_after_deletion : ∀ (policy : WAFPolicy) w₀ st c
    (k : c.Reply → Prog (Result × Option ReconcileError)) σ,
    Reachable (ReconcileStarts cfg) DeletionRequest ⟨s, none⟩ w₀ → w₀.pass = none →
    (∀ P, w₀.store.policies policy.key = some P → P.deletionTimestamp.isSome) →
    Reachable (ReconcileStarts cfg) DeletionRequest w₀ ⟨st, some (.call c k, σ)⟩ →
    ∀ e, c = .createEngine e ∨ c = .updateEngine e → e.key ≠ (engineFor policy).key

theorem reconcile_finalizer_lifecycle (cfg : WAFPolicyTranslatorConfig) {s : Store}
    (hs : s.WellFormed) : FinalizerLifecycle cfg s where
  guarded st c k σ hw := by
    have hheld := finalizerHeld_reachable (fun _ hc => deletionRequest_not_updatePolicy hc) hs hw
    exact guardedByFinalizer_of_holdsLive (hw.disciplined (reconcileStarts_passRules cfg) hs).allowed
      fun held hlive => hheld _ _ rfl held hlive.held_eq hlive.finalizer_mem
  deleted_pass now key := by
    obtain ⟨k, hk, hdel⟩ := reconcile_eq_call cfg now key
    exact ⟨k, hk, fun policy hp => hdel policy hp ▸ handleDeletion_shape policy⟩
  not_added w w' hw hstep :=
    finalizerNotAdded_step (fun _ hc => deletionRequest_not_updatePolicy hc) hstep
      (hw.disciplined (reconcileStarts_passRules cfg) hs) (hw.seenIssued hs)
  no_engine_after_deletion policy w₀ st c k σ h₀ hpass hstored hw :=
    have hforeign (c : Call) (hc : DeletionRequest c) := deletionRequest_not_createPolicy hc
    no_engine_write_of_deletionRequested
      ((h₀.trans hw).disciplined (reconcileStarts_passRules cfg) hs).allowed
      (deletionRequested_reachable hforeign hs h₀
        ⟨hstored, fun p σ h => by rw [hpass] at h; cases h⟩ hw)

/-- `servedStore` after a deletion request for its policy at time 5. -/
def deletionRequestedStore : Store := (servedStore.exec (.deletePolicy serviceParentPolicy.key 5)).2

/-- The lifecycle on runs from `serviceParentStore`: the Engine create of a first pass finds the
finalizer stored; the deletion request that follows the pass adds no finalizer; and a pass after the
request, at its first write, writes no Engine of the policy. -/
theorem reconcile_finalizer_lifecycle_serviceParent :
    (∃ st e k σ, passAfter testTranslatorConfig 0 serviceParentPolicy.key serviceParentStore 3 =
        ⟨st, some (.call (.createEngine e) k, σ)⟩ ∧ GuardedByFinalizer st (.createEngine e)) ∧
    FinalizerNotAdded servedStore deletionRequestedStore ∧
    ∃ st c k σ, passAfter testTranslatorConfig 0 serviceParentPolicy.key deletionRequestedStore 1 =
        ⟨st, some (.call c k, σ)⟩ ∧ c.IsWrite ∧
      ∀ e, c = .createEngine e ∨ c = .updateEngine e → e.key ≠ (engineFor serviceParentPolicy).key := by
  have h := reconcile_finalizer_lifecycle testTranslatorConfig wellFormed_serviceParentStore
  have hat : passAfter testTranslatorConfig 0 serviceParentPolicy.key serviceParentStore 3 =
      ⟨_, some (.call (.createEngine _) _, _)⟩ := rfl
  have hw := reachable_passAfter DeletionRequest testTranslatorConfig 0 serviceParentPolicy.key
    serviceParentStore 3
  rw [hat] at hw
  have hserved : Reachable (ReconcileStarts testTranslatorConfig) DeletionRequest
      ⟨serviceParentStore, none⟩ ⟨servedStore, none⟩ :=
    reachable_pass serviceParentStore ⟨0, serviceParentPolicy.key, rfl⟩
  have hrequest : Step (ReconcileStarts testTranslatorConfig) DeletionRequest ⟨servedStore, none⟩
      ⟨deletionRequestedStore, none⟩ := .foreign ⟨serviceParentPolicy.key, 5, rfl⟩
  have hafter : passAfter testTranslatorConfig 0 serviceParentPolicy.key deletionRequestedStore 1 =
      ⟨_, some (.call (.updatePolicy _) _, _)⟩ := rfl
  have hw' := reachable_passAfter DeletionRequest testTranslatorConfig 0 serviceParentPolicy.key
    deletionRequestedStore 1
  rw [hafter] at hw'
  have hdeleted (P : WAFPolicy) (hP : deletionRequestedStore.policies serviceParentPolicy.key = some P) :
      P.deletionTimestamp.isSome := by
    obtain rfl := Option.some.inj (hP.symm.trans (show _ = some _ from rfl))
    rfl
  exact ⟨⟨_, _, _, _, hat, h.guarded _ _ _ _ hw⟩, h.not_added _ _ hserved hrequest,
    _, _, _, _, hafter, trivial,
    h.no_engine_after_deletion serviceParentPolicy _ _ _ _ _ (hserved.tail hrequest) rfl hdeleted hw'⟩

end Controller

end CorazaOperator
