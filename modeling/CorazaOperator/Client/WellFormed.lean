import CorazaOperator.Client.Prog

/-!
# What one call does to the store

Every call the API server answers either leaves the store as it is or writes one entry, and a written
object carries the revision the store had before the write. `Store.exec_cases` says so once, for all
thirteen calls; everything below, and every invariant of the interleaved system, is derived from it
rather than from the bodies of the operations.

A store is well formed when each object sits at the position its own metadata names, and resource
versions are below the revision counter and name one position. Well-formedness is kept by every
call, and it is what makes the server's replies consistent with the requests.
-/

namespace CorazaOperator

/-- A stored object of any kind. -/
inductive Obj
  | policy (p : WAFPolicy)
  | engine (e : Engine)
  | object (u : Unstructured)

/-- Where the store keeps an object: its kind and key. -/
inductive Pos
  | policy (key : ObjectKey)
  | engine (key : ObjectKey)
  | object (gvk : GroupVersionKind) (key : ObjectKey)
deriving DecidableEq

def Obj.resourceVersion : Obj → Nat
  | .policy p => p.resourceVersion
  | .engine e => e.resourceVersion
  | .object u => u.resourceVersion

/-- The position an object's own metadata names. -/
def Obj.pos : Obj → Pos
  | .policy p => .policy p.key
  | .engine e => .engine e.key
  | .object u => .object u.gvk u.key

/-- One entry written or removed. -/
inductive Write
  | policy (key : ObjectKey) (p : Option WAFPolicy)
  | engine (key : ObjectKey) (e : Option Engine)
  | object (gvk : GroupVersionKind) (key : ObjectKey) (u : Option Unstructured)

def Write.pos : Write → Pos
  | .policy key _ => .policy key
  | .engine key _ => .engine key
  | .object gvk key _ => .object gvk key

def Write.obj : Write → Option Obj
  | .policy _ p => p.map .policy
  | .engine _ e => e.map .engine
  | .object _ _ u => u.map .object

/-- What the server checks of an object it stores: a policy's or an Engine's name is a DNS-1123
subdomain, a policy has a namespace, and an Engine's owner references name at most one controller.
The names of the unstructured kinds follow rules of their own, which no result reads. -/
def Obj.Admitted : Obj → Prop
  | .policy p => Validation.DNS1123Subdomain p.name ∧ p.namespace ≠ ""
  | .engine e => Validation.DNS1123Subdomain e.name ∧ Store.OwnerReferencesValid e.ownerReferences
  | .object _ => True

/-- A write the server makes: the object, if any, is new at its own position, carries the revision
the store had, and passed admission. -/
def Write.Fresh (w : Write) (revision : Nat) : Prop :=
  ∀ o, w.obj = some o → o.resourceVersion = revision ∧ o.pos = w.pos ∧ o.Admitted

namespace Store

def «at» (s : Store) : Pos → Option Obj
  | .policy key => (s.policies key).map .policy
  | .engine key => (s.engines key).map .engine
  | .object gvk key => (s.objects gvk key).map .object

def apply (s : Store) : Write → Store
  | .policy key p => s.setPolicy key p
  | .engine key e => s.setEngine key e
  | .object gvk key u => s.setObject gvk key u

@[simp] theorem apply_revision (s : Store) (w : Write) : (s.apply w).revision = s.revision + 1 := by
  cases w <;> rfl

theorem exec_namespaced (c : Call) (s : Store) : (s.exec c).2.namespaced = s.namespaced := by
  cases c <;>
    simp only [exec, updatePolicy, patchPolicyStatus, createPolicy, deletePolicy, createEngine,
      updateEngine, deleteEngine, create, update, delete] <;>
    repeat' split
  all_goals rfl

theorem exec_policies_of_not_writesPolicy {c : Call} (hc : ¬c.WritesPolicy) (s : Store) :
    (s.exec c).2.policies = s.policies := by
  cases c <;> first
    | exact absurd trivial hc
    | (simp only [exec, createEngine, updateEngine, deleteEngine, create, update, delete]
       repeat' split
       all_goals rfl)

theorem exec_error {s : Store} {c : Call} {err : ApiError} (h : (s.exec c).1 = .error err) :
    (s.exec c).2 = s := by
  by_cases hc : c.IsWrite
  swap
  · exact exec_read hc s
  revert h
  cases c <;>
    simp only [exec, updatePolicy, patchPolicyStatus, createPolicy, deletePolicy, createEngine,
      updateEngine, deleteEngine, create, update, delete] <;>
    repeat' split
  all_goals first | exact False.elim hc | exact fun _ => rfl | (intro h; cases h)

/-! ### What a call does to a stored policy -/

/-- The ways one call changes the policy stored at `key`: it stays; an update that found the version
it was sent stores the updated policy, or releases a deleted one left without finalizers; a status
patch sets the conditions; a create fills a free key; a deletion request removes a policy without
finalizers, or marks a live one deleted. -/
inductive PolicyChange (s : Store) (key : ObjectKey) (c : Call) :
    Option WAFPolicy → Option WAFPolicy → Prop
  | keep {p : Option WAFPolicy} : PolicyChange s key c p p
  | update {sent cur : WAFPolicy} (hc : c = .updatePolicy sent) (hkey : sent.key = key)
      (hrv : cur.resourceVersion = sent.resourceVersion)
      (hkept : ¬(cur.deletionTimestamp.isSome ∧ sent.finalizers = [])) :
      PolicyChange s key c (some cur) (some (s.updatedPolicy cur sent))
  | release {sent cur : WAFPolicy} (hc : c = .updatePolicy sent) (hkey : sent.key = key)
      (hrv : cur.resourceVersion = sent.resourceVersion) (hdel : cur.deletionTimestamp.isSome)
      (hfin : sent.finalizers = []) : PolicyChange s key c (some cur) none
  | patch {cur : WAFPolicy} (conditions : List Condition)
      (hc : c = .patchPolicyStatus key (some conditions)) :
      PolicyChange s key c (some cur) (some { cur with conditions, resourceVersion := s.revision })
  | create {p : WAFPolicy} (hc : c = .createPolicy p) (hkey : p.key = key) :
      PolicyChange s key c none (some { p with
        conditions := [], deletionTimestamp := none, generation := 1, resourceVersion := s.revision })
  | remove {cur : WAFPolicy} {now : Time} (hc : c = .deletePolicy key now)
      (hfin : cur.finalizers = []) : PolicyChange s key c (some cur) none
  | markDeleted {cur : WAFPolicy} {now : Time} (hc : c = .deletePolicy key now)
      (hfin : cur.finalizers ≠ []) (hlive : cur.deletionTimestamp = none) :
      PolicyChange s key c (some cur)
        (some { cur with deletionTimestamp := some now, resourceVersion := s.revision })

theorem PolicyChange.setPolicy {s : Store} {k : ObjectKey} {c : Call} {new : Option WAFPolicy}
    (h : PolicyChange s k c (s.policies k) new) (key : ObjectKey) :
    PolicyChange s key c (s.policies key) ((s.setPolicy k new).policies key) := by
  by_cases hk : key = k
  · subst hk
    rwa [setPolicy_policies_self]
  · rw [setPolicy_policies_ne _ _ hk]
    exact .keep

theorem exec_policyChange (s : Store) (c : Call) (key : ObjectKey) :
    PolicyChange s key c (s.policies key) ((s.exec c).2.policies key) := by
  by_cases hc : c.WritesPolicy
  swap
  · rw [exec_policies_of_not_writesPolicy hc]
    exact .keep
  cases c with
  | updatePolicy sent =>
    simp only [exec, updatePolicy]
    split
    · exact .keep
    · rename_i cur hcur
      split_ifs with hrv hdel
      · exact .keep
      · refine PolicyChange.setPolicy ?_ key
        rw [hcur]
        exact .release rfl rfl (not_not.mp hrv) hdel.1 hdel.2
      · refine PolicyChange.setPolicy ?_ key
        rw [hcur]
        exact .update rfl rfl (not_not.mp hrv) hdel
  | patchPolicyStatus k patch =>
    simp only [exec, patchPolicyStatus]
    split
    · exact .keep
    · rename_i cur hcur
      split
      · exact .keep
      · refine PolicyChange.setPolicy ?_ key
        rw [hcur]
        exact .patch _ rfl
  | createPolicy p =>
    simp only [exec, createPolicy]
    by_cases hns : p.namespace = ""
    · rw [if_pos hns]
      exact .keep
    rw [if_neg hns]
    by_cases hname : Validation.DNS1123Subdomain p.name
    swap
    · rw [if_pos hname]
      exact .keep
    rw [if_neg (not_not.mpr hname)]
    split
    · exact .keep
    · rename_i hnone
      split_ifs
      · exact .keep
      · refine PolicyChange.setPolicy ?_ key
        rw [hnone]
        exact .create rfl rfl
  | deletePolicy k now =>
    simp only [exec, deletePolicy]
    split
    · exact .keep
    · rename_i cur hcur
      split_ifs with hfin hdel
      · refine PolicyChange.setPolicy ?_ key
        rw [hcur]
        exact .remove rfl hfin
      · exact .keep
      · refine PolicyChange.setPolicy ?_ key
        rw [hcur]
        exact .markDeleted rfl hfin (Option.not_isSome_iff_eq_none.mp hdel)
  | _ => exact absurd hc id

theorem exec_policyChange_of_stored {s : Store} {key : ObjectKey} {P : WAFPolicy}
    (h : s.policies key = some P) (c : Call) :
    PolicyChange s key c (some P) ((s.exec c).2.policies key) :=
  h ▸ exec_policyChange s c key

theorem exec_policyChange_to_stored {s : Store} {c : Call} {key : ObjectKey} {P' : WAFPolicy}
    (h : (s.exec c).2.policies key = some P') : PolicyChange s key c (s.policies key) (some P') :=
  h ▸ exec_policyChange s c key

theorem run_namespaced {α : Type} (p : Prog α) (s : Store) (σ : List Event) :
    (p.run s σ).2.1.namespaced = s.namespaced := by
  induction p generalizing s σ with
  | ret a => rfl
  | call c k ih => exact (ih _ _ _).trans (exec_namespaced c s)

theorem at_apply (s : Store) (w : Write) (pos : Pos) :
    (s.apply w).at pos = if pos = w.pos then w.obj else s.at pos := by
  cases w <;> cases pos <;> simp [apply, «at», Write.pos, Write.obj] <;> split_ifs <;> simp_all

/-! ### Well-formed stores -/

/-- Objects sit at their own positions and passed admission, and a resource version is below the
revision and names one position. -/
structure WellFormed (s : Store) : Prop where
  pos_eq : ∀ pos o, s.at pos = some o → o.pos = pos
  admitted : ∀ pos o, s.at pos = some o → o.Admitted
  lt_revision : ∀ pos o, s.at pos = some o → o.resourceVersion < s.revision
  rv_unique : ∀ pos pos' o o', s.at pos = some o → s.at pos' = some o' →
    o.resourceVersion = o'.resourceVersion → pos = pos'

theorem WellFormed.apply {s : Store} (h : s.WellFormed) {w : Write} (hw : w.Fresh s.revision) :
    (s.apply w).WellFormed where
  pos_eq pos o ho := by
    rw [at_apply] at ho
    split_ifs at ho with hp
    · exact hp ▸ (hw o ho).2.1
    · exact h.pos_eq pos o ho
  admitted pos o ho := by
    rw [at_apply] at ho
    split_ifs at ho
    · exact (hw o ho).2.2
    · exact h.admitted pos o ho
  lt_revision pos o ho := by
    rw [at_apply] at ho
    rw [apply_revision]
    split_ifs at ho
    · exact ((hw o ho).1).symm ▸ Nat.lt_succ_self _
    · exact Nat.lt_succ_of_lt (h.lt_revision pos o ho)
  rv_unique pos pos' o o' ho ho' hrv := by
    rw [at_apply] at ho ho'
    split_ifs at ho ho' with hp hp'
    · exact hp.trans hp'.symm
    · have := h.lt_revision _ _ ho'
      have := (hw o ho).1
      omega
    · have := h.lt_revision _ _ ho
      have := (hw o' ho').1
      omega
    · exact h.rv_unique pos pos' o o' ho ho' hrv

theorem WellFormed.policy_key {s : Store} (h : s.WellFormed) {key : ObjectKey} {p : WAFPolicy}
    (hp : s.policies key = some p) : p.key = key := by
  have := h.pos_eq (.policy key) (.policy p) (by simp [«at», hp])
  simpa [Obj.pos] using this

theorem WellFormed.engine_key {s : Store} (h : s.WellFormed) {key : ObjectKey} {e : Engine}
    (he : s.engines key = some e) : e.key = key := by
  have := h.pos_eq (.engine key) (.engine e) (by simp [«at», he])
  simpa [Obj.pos] using this

theorem WellFormed.engine_admitted {s : Store} (h : s.WellFormed) {key : ObjectKey} {e : Engine}
    (he : s.engines key = some e) :
    Validation.DNS1123Subdomain e.name ∧ OwnerReferencesValid e.ownerReferences :=
  h.admitted (.engine key) (.engine e) (by simp [«at», he])

theorem WellFormed.engine_valid {s : Store} (h : s.WellFormed) {key : ObjectKey} {e : Engine}
    (he : s.engines key = some e) : OwnerReferencesValid e.ownerReferences :=
  (h.engine_admitted he).2

theorem WellFormed.policy_admitted {s : Store} (h : s.WellFormed) {key : ObjectKey} {p : WAFPolicy}
    (hp : s.policies key = some p) : Validation.DNS1123Subdomain p.name ∧ p.namespace ≠ "" :=
  h.admitted (.policy key) (.policy p) (by simp [«at», hp])

theorem WellFormed.policy_name {s : Store} (h : s.WellFormed) {key : ObjectKey} {p : WAFPolicy}
    (hp : s.policies key = some p) : Validation.DNS1123Subdomain p.name :=
  (h.policy_admitted hp).1

theorem WellFormed.policy_namespace {s : Store} (h : s.WellFormed) {key : ObjectKey} {p : WAFPolicy}
    (hp : s.policies key = some p) : p.namespace ≠ "" :=
  (h.policy_admitted hp).2

theorem WellFormed.policy_key_admitted {s : Store} (h : s.WellFormed) {key : ObjectKey} {p : WAFPolicy}
    (hp : s.policies key = some p) : Validation.DNS1123Subdomain key.name ∧ key.namespace ≠ "" :=
  h.policy_key hp ▸ h.policy_admitted hp

theorem WellFormed.engine_key_name {s : Store} (h : s.WellFormed) {key : ObjectKey} {e : Engine}
    (he : s.engines key = some e) : Validation.DNS1123Subdomain key.name :=
  h.engine_key he ▸ (h.engine_admitted he).1

theorem WellFormed.engines_eq_none {s : Store} (h : s.WellFormed) {key : ObjectKey}
    (hname : ¬Validation.DNS1123Subdomain key.name) : s.engines key = none := by
  cases he : s.engines key with
  | none => rfl
  | some e => exact absurd (h.engine_key_name he) hname

theorem requestKey_key {s : Store} {gvk : GroupVersionKind} {ns name : String} {k : ObjectKey}
    (h : s.requestKey gvk ns name = some k) : ({ «namespace» := k.namespace, name } : ObjectKey) = k := by
  unfold requestKey at h
  split_ifs at h <;> cases h <;> rfl

/-- Every call leaves a well-formed store as it is or makes one fresh write. -/
theorem exec_cases {s : Store} (h : s.WellFormed) (c : Call) :
    (s.exec c).2 = s ∨ ∃ w : Write, (s.exec c).2 = s.apply w ∧ w.Fresh s.revision := by
  cases c <;>
    simp only [exec, updatePolicy, patchPolicyStatus, createPolicy, deletePolicy, createEngine,
      updateEngine, deleteEngine, create, update, delete] <;>
    repeat' split
  all_goals first
    | exact Or.inl rfl
    | exact Or.inl trivial
    | refine Or.inr ⟨.policy _ _, rfl, ?_⟩
    | refine Or.inr ⟨.engine _ _, rfl, ?_⟩
    | refine Or.inr ⟨.object _ _ _, rfl, ?_⟩
  all_goals simp only [Write.Fresh, Write.obj, Write.pos, Option.map_some', Option.map_none',
    Option.some.injEq, forall_eq', Obj.pos, Obj.resourceVersion, Obj.Admitted, Pos.policy.injEq,
    Pos.engine.injEq, Pos.object.injEq, reduceCtorEq, false_imp_iff, implies_true, true_and, and_true]
  -- what each accepted write stores: a new object passed its checks, an updated one keeps the
  -- stored name
  all_goals first
    | exact requestKey_key ‹_›
    | exact ⟨rfl, not_not.mp ‹_›⟩
    | exact ⟨rfl, not_not.mp ‹_›, ‹_›⟩
    | exact ⟨rfl, engineErrors_eq_nil.mp (not_not.mp ‹_›)⟩
    | exact ⟨rfl, h.engine_key_name ‹_›, not_not.mp ‹_›⟩
    | exact ⟨rfl, rfl, h.policy_key_admitted ‹_›⟩
    | have hkey := h.policy_key ‹s.policies _ = some _›; exact ⟨hkey, h.policy_admitted ‹_›⟩

theorem WellFormed.exec {s : Store} (h : s.WellFormed) (c : Call) : (s.exec c).2.WellFormed := by
  rcases exec_cases h c with hs | ⟨w, hs, hw⟩ <;> rw [hs]
  · exact h
  · exact h.apply hw

/-- A pass run against a well-formed store leaves a well-formed store. -/
theorem WellFormed.run {s : Store} (h : s.WellFormed) {α : Type} (p : Prog α) (σ : List Event) :
    (p.run s σ).2.1.WellFormed := by
  induction p generalizing s σ with
  | ret a => exact h
  | call c k ih => exact ih _ (h.exec c) _

theorem WellFormed.exec_consistent {s : Store} (h : s.WellFormed) (c : Call) :
    c.Consistent (s.exec c).1 := by
  cases c with
  | getPolicy key =>
    show Call.Consistent (.getPolicy key) (s.getPolicy key)
    unfold getPolicy
    split
    · exact h.policy_key ‹_›
    · trivial
  | updatePolicy sent =>
    show Call.Consistent (.updatePolicy sent) (s.updatePolicy sent).1
    unfold updatePolicy
    split
    · trivial
    · dsimp only
      split_ifs
      · trivial
      all_goals exact And.intro rfl (And.intro rfl rfl)
  | getEngine key =>
    show Call.Consistent (.getEngine key) (s.getEngine key)
    unfold getEngine
    split
    · exact h.engine_key ‹_›
    · trivial
  | _ => trivial

end Store

end CorazaOperator
