import CorazaOperator.System.OwnWrites

/-!
# A policy's namespace confines the controller's work for it

Every call of a pass for the policy at `key` names `key`'s namespace (`wp_reconcile_namespace`): the
read of the policy, the update that adds or removes the finalizer, and every call of the target
step, which names only the policy's own objects (`TargetStepCall.objectNamespace_eq`). The target is
read in the policy's namespace whatever its reference says, and the upsert accepts no Engine at
another key.

Every request the watches make for a change is in the namespace of the changed object
(`Store.watchRequests_namespace`): a policy's own key, the owner an Engine's controller reference
names in the Engine's namespace, and the policies a mapper lists in the target's namespace.

So in every state the manager reaches, the call the worker's pass for a key makes next names that
key's namespace, and whatever the server answers, the watches put only keys of that namespace in
line for it (`reachable_namespace_confined`): the controller's work for a policy, and the work that
work causes, stays in the policy's namespace.

Within the namespace, a pass writes two objects only: the policy at its key and the Engine named for
that key (`OwnWrite.pos_eq`). Every other object, a Gateway or HTTPRoute it reads, another policy or
another policy's Engine included, is as it was after any call of the pass
(`reachable_pass_frame`).
-/

namespace CorazaOperator

open Controller Handler Prog

/-- The namespace of the object a call names. -/
def Call.objectNamespace : Call → String
  | .getPolicy key | .patchPolicyStatus key _ | .deletePolicy key _ | .getEngine key
  | .deleteEngine key | .get _ key | .delete _ key => key.namespace
  | .updatePolicy p | .createPolicy p => p.namespace
  | .createEngine e | .updateEngine e => e.namespace
  | .create obj | .update obj => obj.namespace

def Pos.key : Pos → ObjectKey
  | .policy key | .engine key | .object _ key => key

theorem Handler.ownerRequest_namespace {group kind «namespace» : String} {refs : List OwnerReference}
    {key : ObjectKey} (h : ownerRequest group kind «namespace» refs = some key) :
    key.namespace = «namespace» := by
  unfold ownerRequest at h
  split at h
  · cases h
  · split at h
    · cases h
    · split_ifs at h
      cases h
      rfl

theorem WatchEvent.mem_objects_bind {α : Type} {f : Obj → Option α} {old new : Option Obj} {a : α}
    (h : a ∈ (⟨old.bind f, new.bind f⟩ : WatchEvent α).objects) :
    ∃ o, (old = some o ∨ new = some o) ∧ f o = some a := by
  simp only [WatchEvent.mem_objects, Option.bind_eq_some] at h
  rcases h with ⟨o, ho, hf⟩ | ⟨o, ho, hf⟩
  exacts [⟨o, .inl ho, hf⟩, ⟨o, .inr ho, hf⟩]

namespace Store

variable {s s' : Store} {list : String → Except ApiError (List WAFPolicy)} {key : ObjectKey}

theorem mem_findPoliciesForTarget_namespace (hlist : s'.Lists list) {kind name «namespace» : String}
    (h : key ∈ findPoliciesForTarget list kind name «namespace») : key.namespace = «namespace» := by
  obtain ⟨items, hitems, hmem⟩ := hlist «namespace»
  simp only [findPoliciesForTarget, hitems, List.mem_filterMap] at h
  obtain ⟨p, hp, hkey⟩ := h
  split_ifs at hkey
  cases hkey
  exact ((hmem p).mp hp).1

theorem watchRequests_namespace (hlist : s'.Lists list) {pos : Pos} {old new : Option Obj}
    (hobj : ∀ o, old = some o ∨ new = some o → o.pos = pos)
    (h : key ∈ watchRequests list pos old new) : key.namespace = pos.key.namespace := by
  cases pos with
  | policy k =>
    obtain ⟨-, p, hp, rfl⟩ := of_mem_forPolicy h
    obtain ⟨o, ho, hpo⟩ := WatchEvent.mem_objects_bind hp
    cases o <;> cases hpo
    cases hobj _ ho
    rfl
  | engine k =>
    obtain ⟨e, he, hown⟩ := mem_ownsEngine.mp h
    obtain ⟨o, ho, heo⟩ := WatchEvent.mem_objects_bind he
    cases o <;> cases heo
    cases hobj _ ho
    exact ownerRequest_namespace hown
  | object gvk k =>
    simp only [watchRequests, watchesTarget] at h
    split_ifs at h
    all_goals first
      | exact absurd h (List.not_mem_nil _)
      | obtain ⟨u, hu, hmap⟩ := mem_enqueueRequestsFromMapFunc.mp h
        obtain ⟨o, ho, huo⟩ := WatchEvent.mem_objects_bind hu
        cases o <;> cases huo
        cases hobj _ ho
        exact mem_findPoliciesForTarget_namespace hlist hmap

theorem enqueued_namespace (hs : s.WellFormed) {c : Call} (hlist : (s.exec c).2.Lists list)
    (h : key ∈ s.enqueued list c) : ∃ pos, c.pos s = some pos ∧ key.namespace = pos.key.namespace := by
  unfold enqueued at h
  split at h
  · exact absurd h (List.not_mem_nil _)
  · rename_i pos old new hev
    obtain ⟨hpos, rfl, rfl, -⟩ := watchEvent_eq_some hev
    refine ⟨pos, hpos, watchRequests_namespace hlist (fun o ho => ?_) h⟩
    rcases ho with ho | ho
    · exact hs.pos_eq pos o ho
    · exact (hs.exec c).pos_eq pos o ho

end Store

namespace Controller

/-- The calls a target step for `policy` makes: the read of its target, of the kind `Reconcile`'s
switch picks; the read of its Engine, and the create or update of an Engine at the same key; and
the patch of its status. -/
inductive TargetStepCall (policy : WAFPolicy) : Call → Prop
  | getTarget {gvk : GroupVersionKind} (hgvk : targetGVK policy = some gvk) :
      TargetStepCall policy (.get gvk ⟨policy.namespace, policy.spec.targetRef.name⟩)
  | getEngine : TargetStepCall policy (.getEngine (engineFor policy).key)
  | createEngine {e : Engine} (hkey : e.key = (engineFor policy).key) :
      TargetStepCall policy (.createEngine e)
  | updateEngine {e : Engine} (hkey : e.key = (engineFor policy).key) :
      TargetStepCall policy (.updateEngine e)
  | patchStatus (patch : Option (List Condition)) :
      TargetStepCall policy (.patchPolicyStatus policy.key patch)

section pass

variable (cfg : WAFPolicyTranslatorConfig) (now : Time) (policy : WAFPolicy)

theorem targetStepCalls_patchStatus (conditions : List Condition) :
    (patchStatus policy conditions).CallsIn (TargetStepCall policy) :=
  ⟨.patchStatus _, fun _ => trivial⟩

theorem targetStepCalls_notAccepted (result : Result) (reason message : String) :
    (notAccepted now policy result reason message).CallsIn (TargetStepCall policy) := by
  simp only [notAccepted, setNotAccepted, patchStatus, call_bind, ret_bind, callsIn_call]
  exact ⟨.patchStatus _, fun r => by cases r <;> trivial⟩

theorem targetStepCalls_ensureEngine (labels : List (String × String)) :
    (ensureEngine cfg now policy labels).CallsIn (TargetStepCall policy) := by
  refine CallsIn.bind (callsIn_createOrUpdateEngine .getEngine (fun _ h => .createEngine h)
    fun _ h => .updateEngine h) fun res => ?_
  cases res with
  | error err => exact (targetStepCalls_patchStatus policy _).bind fun _ => trivial
  | ok result => exact (targetStepCalls_patchStatus policy _).bind fun r => by cases r <;> trivial

theorem targetStepCalls_reconcileTarget :
    (reconcileTarget cfg now policy).CallsIn (TargetStepCall policy) := by
  unfold reconcileTarget
  dsimp only
  split_ifs with hgw hrt
  · simp only [reconcileForGateway, Controller.get, call_bind, ret_bind, callsIn_call]
    refine ⟨.getTarget (by simp [targetGVK, hgw]), fun r => ?_⟩
    cases r with
    | error err =>
      dsimp only
      split_ifs
      · exact targetStepCalls_notAccepted now policy _ _ _
      · trivial
    | ok _ => exact targetStepCalls_ensureEngine cfg now policy _
  · simp only [reconcileForHTTPRoute, Controller.get, call_bind, ret_bind, callsIn_call]
    refine ⟨.getTarget (by simp [targetGVK, hgw, hrt]), fun r => ?_⟩
    cases r with
    | error err =>
      dsimp only
      split_ifs
      · exact targetStepCalls_notAccepted now policy _ _ _
      · trivial
    | ok route =>
      dsimp only
      split
      · exact targetStepCalls_notAccepted now policy _ _ _
      · exact targetStepCalls_ensureEngine cfg now policy _
  · exact targetStepCalls_notAccepted now policy _ _ _

end pass


/-- A call of a pass for `key` writes, if at all, the policy at `key` or the Engine named for `key`. -/
theorem OwnWrite.pos_eq {key : ObjectKey} {σ : List Event} {c : Call} (hrules : PassRules σ c)
    (hown : OwnWrite key σ c) {s : Store} {pos : Pos} (h : c.pos s = some pos) :
    pos = .policy key ∨ pos = .engine (engineKey key) := by
  cases c with
  | updatePolicy sent => cases h; exact .inl (congrArg _ (hown.update_policy sent rfl))
  | patchPolicyStatus k patch => cases h; exact .inl (congrArg _ (hown.status_patch k patch rfl))
  | createEngine e => cases h; exact .inr (congrArg _ (hown.engine_write e (.inl rfl)).1)
  | updateEngine e => cases h; exact .inr (congrArg _ (hown.engine_write e (.inr rfl)).1)
  | getPolicy _ | getEngine _ | get _ _ => cases h
  | _ => rcases hrules.writes trivial with ⟨_, h⟩ | ⟨_, _, h⟩ | ⟨_, h⟩ | ⟨_, h⟩ <;> cases h

theorem TargetStepCall.objectNamespace_eq {policy : WAFPolicy} {c : Call} (h : TargetStepCall policy c) :
    c.objectNamespace = policy.namespace := by
  cases h with
  | createEngine hkey | updateEngine hkey => exact congrArg ObjectKey.namespace hkey
  | _ => rfl

/-- Whatever the server answers, every call of a pass for `key` names `key`'s namespace: the policy
the read of `key` sends back is the one at `key`, and an update sends back the policy it was sent. -/
theorem wp_reconcile_namespace (cfg : WAFPolicyTranslatorConfig) (now : Time) (key : ObjectKey) :
    WP (fun _ c => c.objectNamespace = key.namespace) (reconcile cfg now key) [] fun _ _ => True := by
  have htarget (policy : WAFPolicy) (hns : policy.namespace = key.namespace) (σ : List Event) :
      WP (fun _ c => c.objectNamespace = key.namespace) (reconcileTarget cfg now policy) σ
        fun _ _ => True :=
    ((targetStepCalls_reconcileTarget cfg now policy).wp (I := fun _ => True)
      (fun _ _ _ hc => hc.objectNamespace_eq.trans hns) (fun _ _ _ _ _ => trivial) trivial).mono
      fun _ _ _ => trivial
  simp only [reconcile, getPolicy, wp_bind, wp_call, wp_ret]
  refine ⟨rfl, fun r hr => ?_⟩
  cases r with
  | error err =>
    dsimp only
    split_ifs <;> trivial
  | ok policy =>
    have hns : policy.namespace = key.namespace := congrArg ObjectKey.namespace hr
    dsimp only
    split_ifs
    · unfold handleDeletion
      split_ifs
      · simp only [updatePolicy, wp_bind, wp_call, wp_ret]
        exact ⟨hns, fun r _ => by cases r <;> trivial⟩
      · trivial
    · exact htarget policy hns _
    · simp only [updatePolicy, wp_bind, wp_call, wp_ret]
      refine ⟨hns, fun r hr' => ?_⟩
      cases r with
      | error => trivial
      | ok p => exact htarget p ((congrArg ObjectKey.namespace hr'.1).trans hns) _

end Controller

namespace Manager

variable {cfg : WAFPolicyTranslatorConfig} {Foreign : Call → Prop} {init m : Manager}

/-- In every state the manager reaches from a well-formed store with the worker free, whatever the
server answers or fails and whatever other clients write: the call the worker's pass for `key` makes
next names `key`'s namespace, and whatever the server answers, every key the watches put in line for
it is of `key`'s namespace. -/
theorem reachable_namespace_confined (hinit : init.store.WellFormed) (hfree : init.pass = none)
    (h : Reachable cfg Foreign init m) {key : ObjectKey} {c : Call}
    {cont : c.Reply → Prog (Result × Option ReconcileError)} {σ : List Event}
    (hpass : m.pass = some (key, .call c cont, σ)) :
    c.objectNamespace = key.namespace ∧ ∀ list, (m.store.exec c).2.Lists list →
      ∀ k ∈ m.store.enqueued list c, k.namespace = key.namespace := by
  have hns := (h.disciplined (fun now key => wp_reconcile_namespace cfg now key) hinit hfree
    key _ σ hpass).1
  obtain ⟨hrules, -, hown⟩ := h.passCall hinit hfree hpass
  refine ⟨hns, fun list hlist k hk => ?_⟩
  obtain ⟨pos, hpos, hk⟩ := Store.enqueued_namespace (h.wellFormed hinit) hlist hk
  rw [hk]
  rcases hown.pos_eq hrules hpos with rfl | rfl <;> rfl

/-- When the pass of `serviceParentManager`'s policy is about to create the Engine, the Engine is in
the policy's namespace, and so is every key its creation puts in line. -/
theorem reachable_namespace_confined_serviceParent :
    ∃ m e cont σ, Reachable testTranslatorConfig (fun _ => True) serviceParentManager m ∧
      m.pass = some (serviceParentPolicy.key, .call (.createEngine e) cont, σ) ∧
      (Call.createEngine e).objectNamespace = serviceParentPolicy.key.namespace ∧
      ∀ list, (m.store.exec (.createEngine e)).2.Lists list →
        ∀ k ∈ m.store.enqueued list (.createEngine e), k.namespace = serviceParentPolicy.key.namespace := by
  -- the policy, its route and its Engine read, up to the create
  have h : Reachable testTranslatorConfig (fun _ => True) serviceParentManager _ :=
    (((Reachable.refl.tail serviceParentManager_get).tail (.call rfl (serviceParentList_lists rfl))).tail
      (.call rfl (serviceParentList_lists rfl))).tail (.call rfl (serviceParentList_lists rfl))
  exact ⟨_, _, _, _, h, rfl, reachable_namespace_confined wellFormed_serviceParentStore rfl h rfl⟩

/-- In every state the manager reaches from a well-formed store with the worker free, whatever the
server answers or fails and whatever other clients write: the call the worker's pass for `key` makes
next leaves every object but the policy at `key` and the Engine named for `key` as it is. -/
theorem reachable_pass_frame (hinit : init.store.WellFormed) (hfree : init.pass = none)
    (h : Reachable cfg Foreign init m) {key : ObjectKey} {c : Call}
    {cont : c.Reply → Prog (Result × Option ReconcileError)} {σ : List Event}
    (hpass : m.pass = some (key, .call c cont, σ)) {pos : Pos} (hpolicy : pos ≠ .policy key)
    (hengine : pos ≠ .engine (engineKey key)) : (m.store.exec c).2.at pos = m.store.at pos :=
  let ⟨hrules, _, hown⟩ := h.passCall hinit hfree hpass
  Store.exec_at_of_ne fun hc => (hown.pos_eq hrules hc).elim hpolicy hengine

/-- When the pass of `serviceParentManager`'s policy creates the Engine, the route it read is as it
was. -/
theorem reachable_pass_frame_serviceParent :
    ∃ m e cont σ, Reachable testTranslatorConfig (fun _ => True) serviceParentManager m ∧
      m.pass = some (serviceParentPolicy.key, .call (.createEngine e) cont, σ) ∧
      Pos.object httpRouteGVK ⟨serviceParentPolicy.namespace, "route"⟩ ≠ .policy serviceParentPolicy.key ∧
      Pos.object httpRouteGVK ⟨serviceParentPolicy.namespace, "route"⟩ ≠
        .engine (engineKey serviceParentPolicy.key) ∧
      (m.store.exec (.createEngine e)).2.at (.object httpRouteGVK ⟨serviceParentPolicy.namespace, "route"⟩) =
        m.store.at (.object httpRouteGVK ⟨serviceParentPolicy.namespace, "route"⟩) := by
  have h : Reachable testTranslatorConfig (fun _ => True) serviceParentManager _ :=
    (((Reachable.refl.tail serviceParentManager_get).tail (.call rfl (serviceParentList_lists rfl))).tail
      (.call rfl (serviceParentList_lists rfl))).tail (.call rfl (serviceParentList_lists rfl))
  exact ⟨_, _, _, _, h, rfl, Pos.noConfusion, Pos.noConfusion,
    reachable_pass_frame wellFormed_serviceParentStore rfl h rfl Pos.noConfusion Pos.noConfusion⟩

end Manager

end CorazaOperator
