import CorazaOperator.Controller.Setup
import CorazaOperator.Proof.Resolution

/-!
# The watches see every change a pass reads

A pass for a key reads the policy stored there, the object its target reference names, and the
Engine named for it. `Store.watched` is what of these the controller's watches look at: the
policy's generation, the Engine when `Owns` maps it to the key, and the answer the read of the
target gets. `mem_enqueued_of_watched` says that a write that changes any of the three enqueues the
key, whoever makes it:

* a new generation, a create or a delete of the policy passes `GenerationChangedPredicate`;
* an Engine that `Owns` maps to the key, before or after the write, enqueues the key;
* a Gateway or an HTTPRoute the stored policy targets is mapped back to the policy by
  `findPoliciesForGateway` or `findPoliciesForHTTPRoute`, since the pass reads it in the policy's
  namespace under the reference's name and the mappers list that namespace. This needs the two
  kinds to be namespaced, as the Gateway API declares them.

A write that keeps the generation keeps the spec (`PolicyChange.spec_of_generation`), so it does not
move the target read either. What the watches do not look at is the rest of the policy: a change of
its status, labels or finalizers alone enqueues nothing. This store does not move the generation
when it marks a policy deleted, as the API server does for a custom resource with finalizers, so
here the deletion mark is not seen either; the results speak of generations and hold either way.
-/

namespace CorazaOperator

namespace Controller

/-- The key of the Engine `ensureEngine` derives for the policy at `key`. -/
def engineKey (key : ObjectKey) : ObjectKey := ⟨key.namespace, EngineNamePrefix ++ key.name⟩

theorem engineFor_key (policy : WAFPolicy) : (engineFor policy).key = engineKey policy.key := rfl

end Controller

namespace Store

open Controller Handler

/-- `list` answers the informer cache's listing of the policies of `s`: for each namespace, the
policies stored in it. -/
def Lists (s : Store) (list : String → Except ApiError (List WAFPolicy)) : Prop :=
  ∀ ns, ∃ items, list ns = .ok items ∧ ∀ p, p ∈ items ↔ p.namespace = ns ∧ s.policies p.key = some p

/-- The keys the controller's watches enqueue for a call. -/
def enqueued (s : Store) (list : String → Except ApiError (List WAFPolicy)) (c : Call) :
    List ObjectKey :=
  match s.watchEvent c with
  | none => []
  | some (pos, old, new) => watchRequests list pos old new

/-- The answer the pass's read of the policy's target gets, for a reference of a kind `Reconcile`
reads. -/
def targetRead (s : Store) (policy : WAFPolicy) : Option (Except ApiError Unstructured) :=
  (targetGVK policy).map fun gvk => s.get gvk ⟨policy.namespace, policy.spec.targetRef.name⟩

end Store

/-- What the watches look at of the inputs of a pass: the policy's generation, the Engine named
for it when `Owns` maps that Engine to the policy, and the answer to the read of its target. -/
structure WatchedInputs where
  generation : Option Int
  engine : Option Engine
  target : Option (Except ApiError Unstructured)

namespace Store

open Controller Handler

/-- What the watches look at of the inputs of a pass for `key`. -/
def watched (s : Store) (key : ObjectKey) : WatchedInputs where
  generation := (s.policies key).map WAFPolicy.generation
  engine := (s.engines (engineKey key)).filter fun e => e.ownerKey? = some key
  target := (s.policies key).bind s.targetRead

variable {s : Store} {c : Call} {list : String → Except ApiError (List WAFPolicy)}

theorem versionAt_ne_of_at_ne (hs : s.WellFormed) {pos : Pos} (h : (s.exec c).2.at pos ≠ s.at pos) :
    s.versionAt pos ≠ (s.exec c).2.versionAt pos := by
  rcases exec_cases hs c with hs' | ⟨w, hs', hw⟩
  · exact absurd (by rw [hs']) h
  rw [hs'] at h ⊢
  rw [at_apply] at h
  split_ifs at h with hpos
  · simp only [versionAt, at_apply, if_pos hpos]
    cases hw' : w.obj with
    | none =>
      cases ho : s.at pos with
      | none => exact absurd (hw'.trans ho.symm) h
      | some o => simp
    | some o =>
      have hnew := (hw o hw').1
      cases ho : s.at pos with
      | none => simp
      | some o' =>
        have hold := hs.lt_revision pos o' ho
        simp only [Option.map_some', ne_eq, Option.some.injEq]
        omega
  · exact absurd rfl h

theorem enqueued_of_at_ne (hs : s.WellFormed) {pos : Pos} (h : (s.exec c).2.at pos ≠ s.at pos) :
    s.enqueued list c = watchRequests list pos (s.at pos) ((s.exec c).2.at pos) := by
  rw [enqueued, watchEvent_of_versionAt_ne (versionAt_ne_of_at_ne hs h)]

theorem exec_objects_of_policies_ne {key : ObjectKey}
    (h : (s.exec c).2.policies key ≠ s.policies key) : (s.exec c).2.objects = s.objects := by
  have hpos : c.pos s = some (.policy key) := by
    by_contra hne
    have := congrArg (·.bind Obj.policy?) (exec_at_of_ne hne)
    simp only [at_policy_bind] at this
    exact h this
  funext gvk k
  have := congrArg (·.bind Obj.object?)
    (exec_at_of_ne (show c.pos s ≠ some (.object gvk k) by simp [hpos]))
  simpa only [at_object_bind] using this

theorem PolicyChange.spec_of_generation {key : ObjectKey} {p p' : WAFPolicy}
    (h : PolicyChange s key c (some p) (some p')) (hgen : p'.generation = p.generation) :
    p'.spec = p.spec := by
  cases h with
  | keep => rfl
  | update =>
    simp only [updatedPolicy] at hgen ⊢
    split_ifs at hgen with hspec
    · exact hspec
    · omega
  | patch => rfl
  | markDeleted => rfl

theorem targetRead_congr {s' : Store} {p p' : WAFPolicy} (hobjects : s'.objects = s.objects)
    (hnamespaced : s'.namespaced = s.namespaced) (hns : p'.namespace = p.namespace)
    (hspec : p'.spec = p.spec) : s'.targetRead p' = s.targetRead p := by
  simp only [targetRead, targetGVK, get_congr _ hobjects hnamespaced, hns, hspec]

/-! ### Each part of the watched inputs -/

theorem mem_enqueued_of_generation (hs : s.WellFormed) {key : ObjectKey}
    (h : (s.watched key).generation ≠ ((s.exec c).2.watched key).generation) :
    key ∈ s.enqueued list c := by
  have hat : (s.exec c).2.at (.policy key) ≠ s.at (.policy key) := fun heq => h (by
    have := congrArg (·.bind Obj.policy?) heq
    simp only [at_policy_bind] at this
    simp only [watched, this])
  rw [enqueued_of_at_ne hs hat]
  simp only [watchRequests, at_policy_bind]
  exact mem_forPolicy (fun _ hp => hs.policy_key hp) (fun _ hp => (hs.exec c).policy_key hp) h

theorem mem_enqueued_of_engine (hs : s.WellFormed) {key : ObjectKey}
    (h : (s.watched key).engine ≠ ((s.exec c).2.watched key).engine) : key ∈ s.enqueued list c := by
  have hat : (s.exec c).2.at (.engine (engineKey key)) ≠ s.at (.engine (engineKey key)) :=
    fun heq => h (by
      have := congrArg (·.bind Obj.engine?) heq
      simp only [at_engine_bind] at this
      simp only [watched, this])
  rw [enqueued_of_at_ne hs hat]
  simp only [watchRequests, at_engine_bind, mem_ownsEngine, WatchEvent.mem_objects]
  by_contra hnone
  push_neg at hnone
  apply h
  simp only [watched]
  cases hold : s.engines (engineKey key) <;> cases hnew : (s.exec c).2.engines (engineKey key) <;>
    simp_all [Option.filter]

theorem mem_enqueued_of_target (hs : s.WellFormed) (hgateway : s.namespaced gatewayGVK = true)
    (hroute : s.namespaced httpRouteGVK = true) (hlist : (s.exec c).2.Lists list) {p : WAFPolicy}
    (hp' : (s.exec c).2.policies p.key = some p)
    (h : s.targetRead p ≠ (s.exec c).2.targetRead p) : p.key ∈ s.enqueued list c := by
  have hns' : (s.exec c).2.namespaced = s.namespaced := exec_namespaced c s
  cases hgvk : targetGVK p with
  | none => exact absurd (by simp [targetRead, hgvk]) h
  | some gvk =>
    have hnamespaced : s.namespaced gvk = true := by
      unfold targetGVK at hgvk
      split_ifs at hgvk <;> cases hgvk <;> assumption
    by_cases hempty : p.namespace = ""
    · exact absurd (by simp [targetRead, hgvk, get, requestKey, hns', hnamespaced, hempty]) h
    -- the read addresses the object path of the reference in the policy's namespace
    obtain ⟨k, hk⟩ : ∃ k : ObjectKey, k = ⟨p.namespace, p.spec.targetRef.name⟩ := ⟨_, rfl⟩
    have hobj : (s.exec c).2.objects gvk k ≠ s.objects gvk k := fun heq => h (by
      simp [targetRead, hgvk, get, requestKey, hns', hnamespaced, hempty, ← hk, heq])
    have hat : (s.exec c).2.at (.object gvk k) ≠ s.at (.object gvk k) := fun heq => hobj (by
      simpa only [at_object_bind] using congrArg (·.bind Obj.object?) heq)
    rw [enqueued_of_at_ne hs hat]
    simp only [watchRequests, at_object_bind]
    -- the object the notification carries, before or after the write
    obtain ⟨o, ho, hpos⟩ : ∃ o, (s.objects gvk k = some o ∨ (s.exec c).2.objects gvk k = some o) ∧
        Obj.pos (.object o) = .object gvk k := by
      cases hold : s.objects gvk k with
      | some o => exact ⟨o, .inl rfl, hs.pos_eq _ _ (by simp [Store.at, hold])⟩
      | none =>
        cases hnew : (s.exec c).2.objects gvk k with
        | some o => exact ⟨o, .inr rfl, (hs.exec c).pos_eq _ _ (by simp [Store.at, hnew])⟩
        | none => exact absurd (hnew.trans hold.symm) hobj
    simp only [Obj.pos, Pos.object.injEq, Unstructured.key, hk, ObjectKey.mk.injEq] at hpos
    obtain ⟨-, hons, honame⟩ := hpos
    obtain ⟨items, hitems, hmem⟩ := hlist o.namespace
    exact mem_watchesTarget (WatchEvent.mem_objects.mpr ho) hitems
      ((hmem p).mpr ⟨hons.symm ▸ rfl, hp'⟩) hgvk honame.symm

/-! ### Every watched change is seen -/

/-- Every write, by the controller or by another client, that changes what the watches look at of
the inputs of a pass for `key` enqueues `key`. -/
theorem mem_enqueued_of_watched (hs : s.WellFormed) (hgateway : s.namespaced gatewayGVK = true)
    (hroute : s.namespaced httpRouteGVK = true) (hlist : (s.exec c).2.Lists list) {key : ObjectKey}
    (h : s.watched key ≠ (s.exec c).2.watched key) : key ∈ s.enqueued list c := by
  by_cases hgen : (s.watched key).generation = ((s.exec c).2.watched key).generation
  swap
  · exact mem_enqueued_of_generation hs hgen
  by_cases heng : (s.watched key).engine = ((s.exec c).2.watched key).engine
  swap
  · exact mem_enqueued_of_engine hs heng
  have htarget : (s.watched key).target ≠ ((s.exec c).2.watched key).target := fun ht =>
    h (by cases hw : s.watched key; cases hw' : (s.exec c).2.watched key; simp_all)
  simp only [watched, Option.map_eq_map] at hgen htarget
  cases hk : s.policies key with
  | none =>
    cases hk' : (s.exec c).2.policies key <;> simp_all
  | some p =>
    cases hk' : (s.exec c).2.policies key with
    | none => simp_all
    | some p' =>
      have hpk : p.key = key := hs.policy_key hk
      subst hpk
      by_cases hpp : p' = p
      · subst hpp
        simp only [hk, hk', Option.some_bind] at htarget
        exact mem_enqueued_of_target hs hgateway hroute hlist hk' htarget
      · -- another version with the same generation: the same spec, and no object changed
        have hchange := exec_policyChange s c p.key
        rw [hk, hk'] at hchange
        have hspec := hchange.spec_of_generation (by simpa [hk, hk'] using hgen.symm)
        have hns : p'.namespace = p.namespace :=
          congrArg ObjectKey.namespace ((hs.exec c).policy_key hk')
        have hobjects := exec_objects_of_policies_ne
          (show (s.exec c).2.policies p.key ≠ s.policies p.key by
            rw [hk, hk']; exact fun heq => hpp (Option.some.inj heq))
        simp only [hk, hk', Option.some_bind,
          targetRead_congr hobjects (exec_namespaced c s) hns hspec] at htarget
        exact absurd rfl htarget

end Store

namespace Controller

/-- The informer cache's listing of `serviceParentStore`'s policies. -/
def serviceParentList (ns : String) : Except ApiError (List WAFPolicy) :=
  .ok ([serviceParentPolicy].filter fun p => p.namespace = ns)

theorem serviceParentStore_policies_eq {p : WAFPolicy} :
    serviceParentStore.policies p.key = some p ↔ p = serviceParentPolicy := by
  simp only [serviceParentStore]
  split_ifs with h
  · exact ⟨fun h => (Option.some.inj h).symm, fun h => h ▸ rfl⟩
  · simp only [reduceCtorEq, false_iff]
    rintro rfl
    exact h rfl

theorem serviceParentList_lists {s : Store} (h : s.policies = serviceParentStore.policies) :
    s.Lists serviceParentList := by
  intro ns
  refine ⟨_, rfl, fun p => ?_⟩
  rw [h, serviceParentStore_policies_eq]
  simp only [List.mem_filter, List.mem_singleton, decide_eq_true_eq]
  exact ⟨fun ⟨hp, hns⟩ => ⟨hns, hp⟩, fun ⟨hns, hp⟩ => ⟨hp, hns⟩⟩

/-- Deleting the route `serviceParentPolicy` targets changes its target read, and enqueues it
through `findPoliciesForHTTPRoute`. -/
example : serviceParentPolicy.key ∈
    serviceParentStore.enqueued serviceParentList (.delete httpRouteGVK serviceParentRoute.key) :=
  Store.mem_enqueued_of_watched (c := .delete httpRouteGVK serviceParentRoute.key)
    wellFormed_serviceParentStore rfl rfl (serviceParentList_lists rfl) fun h => by
      have htarget := congrArg WatchedInputs.target h
      cases htarget

end Controller

end CorazaOperator
