import CorazaOperator.System.OptimisticLock
import CorazaOperator.System.Manager

/-!
# A pass triggers no pass but its own

The watches turn every write into keys to reconcile, the controller's own writes included. A pass
for a key enqueues no other key, whatever other clients write meanwhile:

* its status patches and the finalizer updates of a live policy keep the generation, so
  `GenerationChangedPredicate` drops them and they enqueue nothing;
* releasing a deleted policy is a delete of the policy at the pass's own key;
* an Engine it creates or updates names the policy as its controller, and the Engine an update
  replaces has no controller or the same one, so `Owns` maps both to the pass's key.

`OwnWrite` is the rule each call of a pass keeps, proved once over the code of `Reconcile`
(`wp_reconcile_ownWrite`); `Store.mem_enqueued_of_ownWrite` reads it against the store's
notification, and `pass_enqueues_own_key` holds it of every state the manager reaches. A pass that
writes its Engine therefore puts its own key back in line, and nothing a pass does ever reaches
another policy: once other clients stop writing, a policy that is neither in line, nor waiting,
nor in the worker's hands stays so (`idle_without_foreign`).
-/

namespace CorazaOperator

namespace Controller

open Handler Controllerutil Prog World

/-! ### The key `Owns` maps an Engine of the operator to -/

theorem ownerRequest_of_referSameObject {refs : List OwnerReference} {ref : OwnerReference}
    {policy : WAFPolicy} {ns : String} (hctrl : Metav1.getControllerOf refs = some ref)
    (hsame : referSameObject ref (policyOwner policy).controllerRef = true) :
    ownerRequest wafPolicyGroup wafPolicyKind ns refs = some ⟨ns, policy.name⟩ := by
  have hgv : parseGroupVersion (policyOwner policy).controllerRef.apiVersion =
      some ⟨"waf.k8s.coraza.io", "v1alpha1"⟩ :=
    show parseGroupVersion "waf.k8s.coraza.io/v1alpha1" = _ by decide
  unfold referSameObject at hsame
  rw [hgv] at hsame
  unfold ownerRequest
  rw [hctrl]
  split at hsame
  · rename_i ga gb hga hgb
    cases hgb
    simp only [hga, decide_eq_true_eq] at hsame ⊢
    obtain ⟨hgroup, hkind, hname⟩ := hsame
    rw [if_pos ⟨hkind, hgroup⟩, hname]
    rfl
  · cases hsame

theorem ownerRequest_of_not_controlledByOther {policy : WAFPolicy} {refs : List OwnerReference}
    (h : ¬ControlledByOther policy refs) (ns : String) :
    ownerRequest wafPolicyGroup wafPolicyKind ns refs = none ∨
      ownerRequest wafPolicyGroup wafPolicyKind ns refs = some ⟨ns, policy.name⟩ := by
  cases hctrl : Metav1.getControllerOf refs with
  | none => exact .inl (by simp [ownerRequest, hctrl])
  | some c =>
    have hsame : referSameObject c (policyOwner policy).controllerRef = true := by
      by_contra hne
      exact h ⟨c, hctrl, by simpa using hne⟩
    exact .inr (ownerRequest_of_referSameObject hctrl hsame)

theorem ownerKey_ownedEngine (cfg : WAFPolicyTranslatorConfig) {policy : WAFPolicy}
    (labels : List (String × String)) {e : Engine} (hns : e.namespace = policy.namespace)
    (hnot : ¬ControlledByOther policy e.ownerReferences) :
    (ownedEngine cfg policy labels e).ownerKey? = some policy.key := by
  have hctrl : (policyOwner policy).controllerRef.controller = some true := rfl
  have hsome : (Metav1.getControllerOf
      (upsertOwnerRef (policyOwner policy).controllerRef e.ownerReferences)).isSome := by
    unfold Metav1.getControllerOf
    exact List.find?_isSome.mpr ⟨_, self_mem_upsertOwnerRef _ _, by simp [hctrl]⟩
  obtain ⟨c, hc⟩ := Option.isSome_iff_exists.mp hsome
  have hsame : referSameObject c (policyOwner policy).controllerRef = true := by
    rcases getControllerOf_upsertOwnerRef hctrl _ hc with hold | rfl
    · by_contra hne
      exact hnot ⟨c, hold, by simpa using hne⟩
    · exact Owner.referSameObject_controllerRef _
        (show (parseGroupVersion "waf.k8s.coraza.io/v1alpha1").isSome by decide)
  show ownerRequest _ _ e.namespace
    (upsertOwnerRef (policyOwner policy).controllerRef e.ownerReferences) = _
  rw [ownerRequest_of_referSameObject hc hsame, hns]
  rfl

/-! ### The rule every call of a pass keeps -/

/-- What a call of a pass for `key` may write: the policy at `key`, by an update or a status patch;
the Engine named for `key`, with a controller reference `Owns` maps to `key`; and, by an update, only
an Engine read with no controller, or one `Owns` maps to `key`. -/
structure OwnWrite (key : ObjectKey) (σ : List Event) (c : Call) : Prop where
  update_policy : ∀ sent, c = .updatePolicy sent → sent.key = key
  status_patch : ∀ k patch, c = .patchPolicyStatus k patch → k = key
  engine_write : ∀ e, c = .createEngine e ∨ c = .updateEngine e →
    e.key = engineKey key ∧ e.ownerKey? = some key
  update_engine : ∀ e, c = .updateEngine e → ∀ read, heldEngine σ = some read →
    read.ownerKey? = none ∨ read.ownerKey? = some key

variable {key : ObjectKey} {σ : List Event}

theorem ownWrite_read {c : Call} (hc : ¬c.IsWrite) : OwnWrite key σ c where
  update_policy _ h := (hc (h ▸ trivial)).elim
  status_patch _ _ h := (hc (h ▸ trivial)).elim
  engine_write _ h := h.elim (fun h => (hc (h ▸ trivial)).elim) fun h => (hc (h ▸ trivial)).elim
  update_engine _ h := (hc (h ▸ trivial)).elim

theorem ownWrite_patchPolicyStatus {k : ObjectKey} (hk : k = key) (patch : Option (List Condition)) :
    OwnWrite key σ (.patchPolicyStatus k patch) where
  update_policy _ h := Call.noConfusion h
  status_patch _ _ h := by
    cases h
    exact hk
  engine_write _ h := h.elim (fun h => Call.noConfusion h) fun h => Call.noConfusion h
  update_engine _ h := Call.noConfusion h

theorem ownWrite_updatePolicy {sent : WAFPolicy} (h : sent.key = key) :
    OwnWrite key σ (.updatePolicy sent) where
  update_policy _ hc := by
    cases hc
    exact h
  status_patch _ _ hc := Call.noConfusion hc
  engine_write _ hc := hc.elim (fun h => Call.noConfusion h) fun h => Call.noConfusion h
  update_engine _ hc := Call.noConfusion hc

variable (cfg : WAFPolicyTranslatorConfig) (now : Time) {held : WAFPolicy}
  (labels : List (String × String))

theorem wp_createOrUpdateEngine_ownWrite (hkey : held.key = key) :
    WP (OwnWrite key) (createOrUpdateEngine (engineFor held) (mutateEngine cfg held labels)) σ
      fun _ _ => True := by
  simp only [createOrUpdateEngine, getEngine, createEngine, updateEngine, wp_bind, wp_call,
    wp_ret, wp_pure]
  refine ⟨ownWrite_read id, fun r hr => ?_⟩
  cases r with
  | error err =>
    dsimp only
    split_ifs
    · rw [mutate_owned rfl not_controlledByOther_nil]
      simp only [wp_bind, wp_call, wp_ret, wp_pure]
      refine ⟨⟨fun _ h => Call.noConfusion h, fun _ _ h => Call.noConfusion h, fun e he => ?_,
        fun _ h => Call.noConfusion h⟩, fun r _ => by cases r <;> trivial⟩
      rcases he with he | he <;> cases he
      exact hkey ▸ ⟨engineFor_key held, ownerKey_ownedEngine cfg labels rfl not_controlledByOther_nil⟩
    · trivial
  | ok existing =>
    have hns : existing.namespace = held.namespace := congrArg ObjectKey.namespace hr
    dsimp only
    cases hm : mutate (mutateEngine cfg held labels) (engineFor held).key existing with
    | error err => trivial
    | ok obj =>
      obtain ⟨-, -, hnot⟩ := mutate_mutateEngine_ok cfg labels hm
      rw [← show existing.key = (engineFor held).key from hr, mutate_owned hns hnot] at hm
      cases hm
      dsimp only
      split_ifs
      · trivial
      · simp only [wp_bind, wp_call, wp_ret, wp_pure]
        refine ⟨⟨fun _ h => Call.noConfusion h, fun _ _ h => Call.noConfusion h, fun e he => ?_,
          fun e he read hread => ?_⟩, fun r _ => by cases r <;> trivial⟩
        · rcases he with he | he <;> cases he
          exact hkey ▸ ⟨hr.trans (engineFor_key held), ownerKey_ownedEngine cfg labels hns hnot⟩
        · obtain rfl : existing = read := Option.some.inj hread
          unfold Engine.ownerKey?
          rw [← hkey, WAFPolicy.key, ← hns]
          exact ownerRequest_of_not_controlledByOther hnot _

theorem wp_ensureEngine_ownWrite (hkey : held.key = key) :
    WP (OwnWrite key) (ensureEngine cfg now held labels) σ fun _ _ => True := by
  simp only [ensureEngine, wp_bind]
  refine (wp_createOrUpdateEngine_ownWrite cfg labels hkey).mono fun res σ' _ => ?_
  cases res <;>
    simp only [patchStatus, wp_bind, wp_call, wp_ret, wp_pure] <;>
    exact ⟨ownWrite_patchPolicyStatus hkey _, fun r _ => by cases r <;> trivial⟩

theorem wp_reconcileTarget_ownWrite (hkey : held.key = key) :
    WP (OwnWrite key) (reconcileTarget cfg now held) σ fun _ _ => True :=
  wp_reconcileTarget_of cfg now (I := fun _ => True)
    (fun _ _ _ _ => ⟨ownWrite_read id, fun _ => trivial⟩)
    (fun _ _ _ _ _ => by
      simp only [notAccepted, setNotAccepted, patchStatus, wp_bind, wp_call, wp_ret, wp_pure]
      exact ⟨ownWrite_patchPolicyStatus hkey _, fun r _ => by cases r <;> trivial⟩)
    (fun _ labels _ => wp_ensureEngine_ownWrite cfg now labels hkey) trivial

theorem wp_reconcile_ownWrite (key : ObjectKey) :
    WP (OwnWrite key) (reconcile cfg now key) [] fun _ _ => True := by
  simp only [reconcile, getPolicy, wp_bind, wp_call, wp_ret]
  refine ⟨ownWrite_read id, fun r hr => ?_⟩
  cases r with
  | error err =>
    dsimp only
    split_ifs <;> trivial
  | ok policy =>
    have hkey : policy.key = key := hr
    dsimp only
    split_ifs
    · unfold handleDeletion
      split_ifs
      · simp only [updatePolicy, wp_bind, wp_call, wp_ret]
        exact ⟨ownWrite_updatePolicy hkey, fun r _ => by cases r <;> trivial⟩
      · trivial
    · exact wp_reconcileTarget_ownWrite cfg now hkey
    · simp only [updatePolicy, wp_bind, wp_call, wp_ret]
      refine ⟨ownWrite_updatePolicy hkey, fun r hr' => ?_⟩
      cases r with
      | error err => trivial
      | ok p => exact wp_reconcileTarget_ownWrite cfg now (hr'.1.trans hkey)

end Controller

namespace Store

open Controller Handler

variable {s : Store} {c : Call} {list : String → Except ApiError (List WAFPolicy)}

/-! ### What one write enqueues -/

theorem enqueued_of_exec_eq (h : (s.exec c).2 = s) : s.enqueued list c = [] := by
  have hev : s.watchEvent c = none := by
    unfold watchEvent
    split
    · rfl
    · rw [h, if_pos rfl]
  simp only [enqueued, hev]

theorem mem_enqueued_policy (hs : s.WellFormed) {k key' : ObjectKey}
    (hpos : c.pos s = some (.policy k)) (h : key' ∈ s.enqueued list c) :
    key' = k ∧ generationChanged WAFPolicy.generation ⟨s.policies k, (s.exec c).2.policies k⟩ := by
  unfold enqueued at h
  split at h
  · exact absurd h (List.not_mem_nil _)
  · rename_i pos old new hev
    obtain ⟨hpos', rfl, rfl, -⟩ := watchEvent_eq_some hev
    obtain rfl : pos = .policy k := Option.some.inj (hpos'.symm.trans hpos)
    simp only [watchRequests, at_policy_bind] at h
    obtain ⟨hgen, p, hp, rfl⟩ := of_mem_forPolicy h
    refine ⟨?_, hgen⟩
    rcases WatchEvent.mem_objects.mp hp with hp | hp
    · exact hs.policy_key hp
    · exact (hs.exec c).policy_key hp

theorem mem_enqueued_engine {k key' : ObjectKey} (hpos : c.pos s = some (.engine k))
    (h : key' ∈ s.enqueued list c) :
    ∃ e, (s.engines k = some e ∨ (s.exec c).2.engines k = some e) ∧ e.ownerKey? = some key' := by
  unfold enqueued at h
  split at h
  · exact absurd h (List.not_mem_nil _)
  · rename_i pos old new hev
    obtain ⟨hpos', rfl, rfl, -⟩ := watchEvent_eq_some hev
    obtain rfl : pos = .engine k := Option.some.inj (hpos'.symm.trans hpos)
    simpa only [watchRequests, at_engine_bind, mem_ownsEngine, WatchEvent.mem_objects] using h

theorem policies_eq_none_of_generationChanged {s' : Store} {key : ObjectKey}
    (hkept : ∀ P', s'.policies key = some P' →
      ∃ P, s.policies key = some P ∧ P'.spec = P.spec ∧ P'.generation = P.generation)
    (h : generationChanged WAFPolicy.generation ⟨s.policies key, s'.policies key⟩) :
    s'.policies key = none := by
  cases hP' : s'.policies key with
  | none => rfl
  | some P' =>
    obtain ⟨P, hP, -, hgen⟩ := hkept P' hP'
    simp [generationChanged, hP, hP', hgen] at h

theorem exec_createEngine (s : Store) (e : Engine) :
    (s.exec (.createEngine e)).2 = s ∨ s.engines e.key = none ∧
      (s.exec (.createEngine e)).2.engines e.key = some { e with resourceVersion := s.revision } := by
  simp only [exec, createEngine]
  split_ifs
  all_goals try exact .inl rfl
  split
  · exact .inl rfl
  · next hnone => exact .inr ⟨hnone, by simp [setEngine]⟩

theorem exec_updateEngine (s : Store) (e : Engine) :
    (s.exec (.updateEngine e)).2 = s ∨ (s.exec (.updateEngine e)).1 = .ok () ∧
      (s.exec (.updateEngine e)).2.engines e.key = some { e with resourceVersion := s.revision } := by
  simp only [exec, updateEngine]
  split
  · exact .inl rfl
  · split_ifs
    all_goals first | exact .inl rfl | exact .inr ⟨rfl, by simp [setEngine]⟩

/-- What a call keeping the rules of a pass for `key`, the optimistic lock and `OwnWrite key`
enqueues: `key` alone, and only when it writes the Engine named for `key` or removes the policy. -/
theorem mem_enqueued_of_ownWrite (hs : s.WellFormed) {key : ObjectKey} {σ : List Event}
    (hrules : PassRules σ c) (hlocked : LockedCall s σ c) (hown : OwnWrite key σ c)
    {key' : ObjectKey} (hmem : key' ∈ s.enqueued list c) :
    key' = key ∧ (c.pos s = some (.engine (engineKey key)) ∨ (s.exec c).2.policies key = none) := by
  have hchanged : (s.exec c).2 ≠ s := fun heq => by
    rw [enqueued_of_exec_eq heq] at hmem
    exact List.not_mem_nil _ hmem
  have hwrite : c.IsWrite := by
    by_contra hc
    exact hchanged (exec_read hc _)
  -- a write at the policy's position keeps every stored generation, so the predicate passes it
  -- only when it removes the policy
  have hpolicy (hpos : c.pos s = some (.policy key)) :
      key' = key ∧ (s.exec c).2.policies key = none := by
    obtain ⟨rfl, hgen⟩ := mem_enqueued_policy hs hpos hmem
    exact ⟨rfl, policies_eq_none_of_generationChanged (hlocked.spec_kept _) hgen⟩
  rcases hrules.writes hwrite with ⟨sent, rfl⟩ | ⟨k', patch, rfl⟩ | ⟨e, rfl⟩ | ⟨e, rfl⟩
  · -- a policy update
    exact (hpolicy (by rw [← hown.update_policy sent rfl]; rfl)).imp_right .inr
  · -- a status patch
    exact (hpolicy (by rw [← hown.status_patch k' patch rfl]; rfl)).imp_right .inr
  · -- an Engine create
    obtain ⟨hkey, howner⟩ := hown.engine_write e (.inl rfl)
    refine ⟨?_, .inl (hkey ▸ rfl)⟩
    obtain ⟨x, hx, hx'⟩ := mem_enqueued_engine (s := s) (c := .createEngine e) rfl hmem
    obtain ⟨hnone, hnew⟩ := (exec_createEngine s e).resolve_left hchanged
    rcases hx with hx | hx
    · rw [hnone] at hx
      cases hx
    · rw [hnew] at hx
      cases hx
      exact Option.some.inj (hx'.symm.trans howner)
  · -- an Engine update
    obtain ⟨hkey, howner⟩ := hown.engine_write e (.inr rfl)
    refine ⟨?_, .inl (hkey ▸ rfl)⟩
    obtain ⟨x, hx, hx'⟩ := mem_enqueued_engine (s := s) (c := .updateEngine e) rfl hmem
    obtain ⟨hok, hnew⟩ := (exec_updateEngine s e).resolve_left hchanged
    rcases hx with hx | hx
    · -- the Engine the update replaced is the one the pass read
      obtain ⟨read, hheld, hread⟩ := hlocked.update_engine e rfl hok
      rw [hread] at hx
      cases hx
      rcases hown.update_engine e rfl _ hheld with hnone | hsome
      · rw [hnone] at hx'
        cases hx'
      · exact Option.some.inj (hx'.symm.trans hsome)
    · rw [hnew] at hx
      cases hx
      exact Option.some.inj (hx'.symm.trans howner)


end Store

namespace Manager

open Controller

variable {cfg : WAFPolicyTranslatorConfig} {Foreign : Call → Prop} {init m : Manager}

theorem Reachable.passCall (hinit : init.store.WellFormed) (hfree : init.pass = none)
    (h : Reachable cfg Foreign init m) {key : ObjectKey} {c : Call}
    {k : c.Reply → Prog (Result × Option ReconcileError)} {σ : List Event}
    (hpass : m.pass = some (key, .call c k, σ)) :
    PassRules σ c ∧ LockedCall m.store σ c ∧ OwnWrite key σ c := by
  have hw : World.Reachable (ReconcileStarts cfg) Foreign ⟨init.store, none⟩
      ⟨m.store, some (.call c k, σ)⟩ := by
    simpa only [Manager.world, hfree, hpass, Option.map_none', Option.map_some'] using h.world
  exact ⟨(hw.disciplined (reconcileStarts_passRules cfg) hinit).allowed,
    lockedCall_reachable hinit hw,
    (h.disciplined (fun now key => wp_reconcile_ownWrite cfg now key) hinit hfree _ _ _ hpass).1⟩

/-- In every reachable state of the manager, whatever other clients write, what the next call of a
pass for `key` enqueues is `key` alone, and only when the call writes the Engine named for `key` or
removes the policy: the pass's status patches and finalizer updates enqueue nothing, and no call of
a pass enqueues another policy. -/
theorem pass_enqueues_own_key (hinit : init.store.WellFormed) (hfree : init.pass = none)
    (h : Reachable cfg Foreign init m) {key : ObjectKey} {c : Call}
    {k : c.Reply → Prog (Result × Option ReconcileError)} {σ : List Event}
    (hpass : m.pass = some (key, .call c k, σ)) (list : String → Except ApiError (List WAFPolicy))
    {key' : ObjectKey} (hmem : key' ∈ m.store.enqueued list c) :
    key' = key ∧
      (c.pos m.store = some (.engine (engineKey key)) ∨ (m.store.exec c).2.policies key = none) :=
  let ⟨hrules, hlocked, hown⟩ := h.passCall hinit hfree hpass
  Store.mem_enqueued_of_ownWrite (h.wellFormed hinit) hrules hlocked hown hmem

/-- The Engine the pass for `serviceParentPolicy` creates against `serviceParentStore`. -/
def serviceParentEngine : Engine :=
  ownedEngine testTranslatorConfig serviceParentPolicy [(gatewayNameLabel, "svc")]
    (engineFor serviceParentPolicy)

/-- Against `serviceParentStore` the pass reaches its create of the Engine, whose notification
enqueues the policy's own key through `Owns`. -/
theorem pass_enqueues_own_key_serviceParent :
    serviceParentPolicy.key ∈ serviceParentStore.enqueued serviceParentList
        (.createEngine serviceParentEngine) ∧
      ((Call.createEngine serviceParentEngine).pos serviceParentStore =
          some (.engine (engineKey serviceParentPolicy.key)) ∨
        (serviceParentStore.exec (.createEngine serviceParentEngine)).2.policies
          serviceParentPolicy.key = none) :=
  have hmem : serviceParentPolicy.key ∈
      serviceParentStore.enqueued serviceParentList (.createEngine serviceParentEngine) := by
    decide
  ⟨hmem, (pass_enqueues_own_key wellFormed_serviceParentStore rfl
    ((((Reachable.refl.tail serviceParentManager_get).tail
      (.call rfl (serviceParentList_lists rfl))).tail
      (.call rfl (serviceParentList_lists rfl))).tail
      (.call rfl (serviceParentList_lists rfl)))
    rfl serviceParentList hmem).2⟩

open Workqueue Handler

/-! ### Other policies are left alone -/

/-- The key is neither in line, nor waiting for a retry, nor in the worker's hands. -/
def Idle (m : Manager) (key : ObjectKey) : Prop :=
  m.Quiet key ∧ m.pass.map Prod.fst ≠ some key

theorem Step.idle (hinit : init.store.WellFormed) (hfree : init.pass = none) (hq : init.QueueInv)
    (hm : Reachable cfg Foreign init m) {m' : Manager} (h : Step cfg (fun _ => False) m m')
    {key : ObjectKey} (hidle : m.Idle key) : m'.Idle key := by
  obtain ⟨⟨hdirty, hwaiting⟩, hhands⟩ := hidle
  cases h with
  | @get k q _ hget =>
    obtain ⟨rest, hqueue, rfl⟩ := Queue.get_eq_some hget
    have hk : k ∈ m.queue.dirty :=
      (((hm.queueInv hq).wf.mem_queue k).mp (hqueue ▸ List.mem_cons_self _ _)).1
    have hne : k ≠ key := fun h => hdirty (h ▸ hk)
    exact ⟨⟨fun h => hdirty (List.mem_of_mem_erase h), hwaiting⟩, by simpa using hne⟩
  | @call k c cont σ list hpass hlist =>
    have hne : k ≠ key := fun h => hhands (by simp [hpass, h])
    obtain ⟨hrules, hlocked, hown⟩ := hm.passCall hinit hfree hpass
    have hnot : key ∉ m.store.enqueued list c := fun h =>
      hne (Store.mem_enqueued_of_ownWrite (hm.wellFormed hinit) hrules hlocked hown h).1.symm
    exact ⟨⟨by simp [hdirty, hnot], hwaiting⟩, by simpa [hpass] using hne⟩
  | fail hpass err => exact ⟨⟨hdirty, hwaiting⟩, by simpa [hpass] using hhands⟩
  | @finish k outcome σ hpass =>
    have hne : key ≠ k := fun h => hhands (by simp [hpass, h])
    have := requeue_quiet_of_ne hne ⟨hdirty, hwaiting⟩ (reconcileHandler outcome.1.requeue outcome.2)
    exact ⟨⟨(Queue.done_dirty _ k).symm ▸ this.1, this.2⟩, by simp⟩
  | @ready k readyAt hmem hdue =>
    have hne : key ≠ k := fun h => hwaiting (List.mem_map.mpr ⟨_, hmem, h.symm⟩)
    exact ⟨⟨by simp [hne, hdirty], fun h => hwaiting (List.map_subset _ (List.erase_subset _ _) h)⟩,
      hhands⟩
  | tick => exact ⟨⟨hdirty, hwaiting⟩, hhands⟩
  | foreign hc => exact hc.elim

/-- Once other clients stop writing, a policy that is neither in line, nor waiting for a retry, nor
in the worker's hands stays so in every later state, whatever the passes for other policies write
and whichever of their calls fail: the controller never puts such a policy back in line on its
own. -/
theorem idle_without_foreign (hinit : init.store.WellFormed) (hfree : init.pass = none)
    (hq : init.QueueInv) (h : Reachable cfg Foreign init m) {key : ObjectKey} (hidle : m.Idle key)
    {m' : Manager} (h' : Reachable cfg (fun _ => False) m m') : m'.Idle key := by
  suffices Reachable cfg Foreign init m' ∧ m'.Idle key from this.2
  induction h' with
  | refl => exact ⟨h, hidle⟩
  | tail _ hstep ih =>
    exact ⟨ih.1.tail (hstep.mono fun _ => False.elim),
      hstep.idle hinit hfree hq ih.1 ih.2⟩

/-- A policy `serviceParentManager` does not hold stays idle while the worker takes up
`serviceParentPolicy`. -/
theorem idle_without_foreign_serviceParent :
    serviceParentManager.Idle ⟨"default", "other"⟩ ∧ serviceParentStarted.Idle ⟨"default", "other"⟩ :=
  have hidle : serviceParentManager.Idle ⟨"default", "other"⟩ :=
    ⟨⟨by decide, by decide⟩, by simp [serviceParentManager]⟩
  ⟨hidle, idle_without_foreign wellFormed_serviceParentStore rfl queueInv_serviceParentManager
    (.refl : Reachable testTranslatorConfig (fun _ => True) serviceParentManager serviceParentManager)
    hidle (.tail .refl (.get rfl rfl))⟩

end Manager

end CorazaOperator
