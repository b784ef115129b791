import CorazaOperator.Proof.Resolution

/-!
# The watch mappers enqueue exactly the policies that read the object

An event on a Gateway or an HTTPRoute is mapped to the policies of its namespace whose target
reference names it. Given a listing of the namespace as the API server gives it (every item in that
namespace, no name twice), `findPoliciesForGateway` and `findPoliciesForHTTPRoute` return each such
key once, and nothing else.

The kind strings the mappers compare with are the ones `Reconcile` dispatches on, and the key a
pass looks its target up under is the policy's namespace with the reference's name. So the keys a
mapper returns are exactly those of the listed policies whose pass starts its target step by
reading the object of the event.
-/

namespace CorazaOperator

namespace Controller

/-- A listing of the policies of `namespace` as the API server answers it: every item is in that
namespace, and no name is listed twice. -/
structure ConsistentListing (list : String → Except ApiError (List WAFPolicy)) («namespace» : String)
    (items : List WAFPolicy) : Prop where
  listed : list «namespace» = .ok items
  namespace_eq : ∀ p ∈ items, p.namespace = «namespace»
  names_nodup : (items.map WAFPolicy.name).Nodup

/-- What a mapper owes an event on `obj`: each key once, and the keys of exactly the listed policies
whose target reference has kind `kind` and names `obj`. -/
structure EnqueuesExactly (keys : List ObjectKey) (items : List WAFPolicy) (kind : String)
    (obj : Unstructured) : Prop where
  nodup : keys.Nodup
  mem_iff : ∀ key, key ∈ keys ↔ ∃ p ∈ items, p.spec.targetRef.kind = kind ∧
    p.spec.targetRef.name = obj.name ∧ key = ⟨obj.namespace, p.name⟩

/-- The target step of a pass for `policy` starts by reading the object of kind `gvk` at `key`. -/
def ReadsTarget (cfg : WAFPolicyTranslatorConfig) (now : Time) (policy : WAFPolicy)
    (gvk : GroupVersionKind) (key : ObjectKey) : Prop :=
  (reconcileTarget cfg now policy).firstCall = some (.get gvk key)

variable {list : String → Except ApiError (List WAFPolicy)} {items : List WAFPolicy}

theorem findPoliciesForTarget_of_listed {kind name «namespace» : String}
    (hlist : list «namespace» = .ok items) :
    findPoliciesForTarget list kind name «namespace» =
      (items.filter fun p => p.spec.targetRef.kind = kind ∧ p.spec.targetRef.name = name).map
        WAFPolicy.key := by
  simp only [findPoliciesForTarget, hlist, ← List.filterMap_eq_map, List.filterMap_filter,
    decide_eq_true_eq]
  rfl

theorem findPoliciesForTarget_enqueuesExactly {obj : Unstructured}
    (h : ConsistentListing list obj.namespace items) (kind : String) :
    EnqueuesExactly (findPoliciesForTarget list kind obj.name obj.namespace) items kind obj where
  nodup := by
    have hkeys : (items.map WAFPolicy.key).Nodup :=
      List.Nodup.of_map ObjectKey.name (by rw [List.map_map]; exact h.names_nodup)
    rw [findPoliciesForTarget_of_listed h.listed]
    exact hkeys.sublist ((List.filter_sublist _).map _)
  mem_iff key := by
    have hkey (p : WAFPolicy) (hp : p ∈ items) : p.key = ⟨obj.namespace, p.name⟩ := by
      rw [WAFPolicy.key, h.namespace_eq p hp]
    simp only [findPoliciesForTarget_of_listed h.listed, List.mem_map, List.mem_filter,
      decide_eq_true_eq]
    constructor
    · rintro ⟨p, ⟨hp, hkind, hname⟩, rfl⟩
      exact ⟨p, hp, hkind, hname, hkey p hp⟩
    · rintro ⟨p, hp, hkind, hname, rfl⟩
      exact ⟨p, ⟨hp, hkind, hname⟩, hkey p hp⟩

theorem readsTarget_iff {cfg : WAFPolicyTranslatorConfig} {now : Time} {policy : WAFPolicy}
    {gvk : GroupVersionKind} {key : ObjectKey} :
    ReadsTarget cfg now policy gvk key ↔
      (policy.spec.targetRef.kind = "Gateway" ∧ gvk = gatewayGVK ∨
        policy.spec.targetRef.kind = "HTTPRoute" ∧ gvk = httpRouteGVK) ∧
      key = ⟨policy.namespace, policy.spec.targetRef.name⟩ := by
  unfold ReadsTarget reconcileTarget
  dsimp only
  split_ifs with hgw hroute
  · simp [hgw, reconcileForGateway, Controller.get, Prog.firstCall, and_comm, eq_comm]
  · simp [hgw, hroute, reconcileForHTTPRoute, Controller.get, Prog.firstCall, and_comm, eq_comm]
  · simp [hgw, hroute, notAccepted, setNotAccepted, patchStatus, Prog.firstCall]

theorem readsTarget_obj_iff {cfg : WAFPolicyTranslatorConfig} {now : Time} {policy : WAFPolicy}
    {obj : Unstructured} (hns : policy.namespace = obj.namespace) {kind : String}
    {gvk : GroupVersionKind} (hdispatch : kind = "Gateway" ∧ gvk = gatewayGVK ∨
      kind = "HTTPRoute" ∧ gvk = httpRouteGVK) :
    ReadsTarget cfg now policy gvk obj.key ↔
      policy.spec.targetRef.kind = kind ∧ policy.spec.targetRef.name = obj.name := by
  rw [readsTarget_iff, Unstructured.key, hns]
  rcases hdispatch with ⟨rfl, rfl⟩ | ⟨rfl, rfl⟩ <;>
    simp [gatewayGVK, httpRouteGVK, eq_comm]

theorem enqueuesExactly_readers {cfg : WAFPolicyTranslatorConfig} {now : Time} {obj : Unstructured}
    {keys : List ObjectKey} (h : ConsistentListing list obj.namespace items) {kind : String}
    {gvk : GroupVersionKind} (hdispatch : kind = "Gateway" ∧ gvk = gatewayGVK ∨
      kind = "HTTPRoute" ∧ gvk = httpRouteGVK) (hkeys : EnqueuesExactly keys items kind obj)
    (key : ObjectKey) :
    key ∈ keys ↔ ∃ p ∈ items, ReadsTarget cfg now p gvk obj.key ∧ key = p.key := by
  rw [hkeys.mem_iff]
  refine exists_congr fun p => and_congr_right fun hp => ?_
  rw [readsTarget_obj_iff (h.namespace_eq p hp) hdispatch, WAFPolicy.key, h.namespace_eq p hp,
    and_assoc]

/-- Each mapper returns, once each, the keys of the listed policies whose reference has its kind and
names the object; these are exactly the policies whose pass reads the object. -/
theorem findPolicies_enqueue_exact_readers {obj : Unstructured}
    (h : ConsistentListing list obj.namespace items) (cfg : WAFPolicyTranslatorConfig)
    (now : Time) :
    EnqueuesExactly (findPoliciesForGateway list obj) items "Gateway" obj ∧
    EnqueuesExactly (findPoliciesForHTTPRoute list obj) items "HTTPRoute" obj ∧
    (∀ key, key ∈ findPoliciesForGateway list obj ↔
      ∃ p ∈ items, ReadsTarget cfg now p gatewayGVK obj.key ∧ key = p.key) ∧
    (∀ key, key ∈ findPoliciesForHTTPRoute list obj ↔
      ∃ p ∈ items, ReadsTarget cfg now p httpRouteGVK obj.key ∧ key = p.key) := by
  have hgateway := findPoliciesForTarget_enqueuesExactly h "Gateway"
  have hroute := findPoliciesForTarget_enqueuesExactly h "HTTPRoute"
  exact ⟨hgateway, hroute, enqueuesExactly_readers h (.inl ⟨rfl, rfl⟩) hgateway,
    enqueuesExactly_readers h (.inr ⟨rfl, rfl⟩) hroute⟩

/-- Three policies of `default`: one on the Gateway `gw`, one on an HTTPRoute `gw`, and one on
another Gateway. -/
def watchedPolicies : List WAFPolicy :=
  [{ «namespace» := "default", name := "a", spec := { targetRef := { kind := "Gateway", name := "gw" } } },
   { «namespace» := "default", name := "b", spec := { targetRef := { kind := "HTTPRoute", name := "gw" } } },
   { «namespace» := "default", name := "c", spec := { targetRef := { kind := "Gateway", name := "other" } } }]

/-- The listing that answers `watchedPolicies` for `default` and nothing elsewhere. -/
def watchedListing (ns : String) : Except ApiError (List WAFPolicy) :=
  if ns = "default" then .ok watchedPolicies else .ok []

def watchedTarget : Unstructured where
  gvk := gatewayGVK
  «namespace» := "default"
  name := "gw"

theorem watchedListing_consistent :
    ConsistentListing watchedListing watchedTarget.namespace watchedPolicies where
  listed := rfl
  namespace_eq := by decide
  names_nodup := by decide

theorem findPolicies_enqueue_exact_readers_watched :
    ConsistentListing watchedListing watchedTarget.namespace watchedPolicies ∧
    EnqueuesExactly (findPoliciesForGateway watchedListing watchedTarget) watchedPolicies "Gateway"
      watchedTarget ∧
    EnqueuesExactly (findPoliciesForHTTPRoute watchedListing watchedTarget) watchedPolicies
      "HTTPRoute" watchedTarget ∧
    (∀ key, key ∈ findPoliciesForGateway watchedListing watchedTarget ↔
      ∃ p ∈ watchedPolicies, ReadsTarget testTranslatorConfig 0 p gatewayGVK watchedTarget.key ∧
        key = p.key) ∧
    (∀ key, key ∈ findPoliciesForHTTPRoute watchedListing watchedTarget ↔
      ∃ p ∈ watchedPolicies, ReadsTarget testTranslatorConfig 0 p httpRouteGVK watchedTarget.key ∧
        key = p.key) :=
  ⟨watchedListing_consistent,
    findPolicies_enqueue_exact_readers watchedListing_consistent testTranslatorConfig 0⟩

example : findPoliciesForGateway watchedListing watchedTarget = [⟨"default", "a"⟩] := by decide

end Controller

end CorazaOperator
