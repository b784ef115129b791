import CorazaOperator.Client.Watch
import CorazaOperator.Controller.WAFPolicy
import CorazaOperator.Runtime.Handler
import CorazaOperator.Runtime.Workqueue

/-!
# SetupWithManager

The watches and the queue options `SetupWithManager` gives the controller:

* `For(WAFPolicy)` with `GenerationChangedPredicate`: a policy is enqueued when it is created or
  deleted, or when an update moves its generation (`forPolicy`);
* `Owns(Engine)`: an Engine's change enqueues the `WAFPolicy` its controller reference names, in
  the Engine's namespace (`ownsEngine`);
* `Watches` of Gateways and HTTPRoutes with `findPoliciesForGateway` and `findPoliciesForHTTPRoute`
  (`watchesTarget`);
* the rate limiter `NewTypedItemExponentialFailureRateLimiter(1s, 1m)` (`rateLimiter`).

`watchRequests` routes a notification to the watch of its kind. The group and kind `Owns` matches
are those the scheme registers for `WAFPolicy`, the type given to `For`. The controller's name and
the number of workers (one, the default) are read by the manager model.
-/

namespace CorazaOperator

def Obj.policy? : Obj → Option WAFPolicy
  | .policy p => some p
  | _ => none

def Obj.engine? : Obj → Option Engine
  | .engine e => some e
  | _ => none

def Obj.object? : Obj → Option Unstructured
  | .object u => some u
  | _ => none

@[simp] theorem Store.at_policy_bind (s : Store) (key : ObjectKey) :
    (s.at (.policy key)).bind Obj.policy? = s.policies key := by
  simp only [Store.at]; cases s.policies key <;> rfl

@[simp] theorem Store.at_engine_bind (s : Store) (key : ObjectKey) :
    (s.at (.engine key)).bind Obj.engine? = s.engines key := by
  simp only [Store.at]; cases s.engines key <;> rfl

@[simp] theorem Store.at_object_bind (s : Store) (gvk : GroupVersionKind) (key : ObjectKey) :
    (s.at (.object gvk key)).bind Obj.object? = s.objects gvk key := by
  simp only [Store.at]; cases s.objects gvk key <;> rfl

namespace Controller

def wafPolicyGroup : String := "waf.k8s.coraza.io"

def wafPolicyKind : String := "WAFPolicy"

/-- `1*time.Second`. -/
def rateLimiterBaseDelay : Nat := 1000000000

/-- `1*time.Minute`. -/
def rateLimiterMaxDelay : Nat := 60 * 1000000000

/-- The controller's rate limiter, before any failure. -/
def rateLimiter : Workqueue.ExponentialFailureRateLimiter ObjectKey :=
  .new rateLimiterBaseDelay rateLimiterMaxDelay

end Controller

/-- The key `Owns` maps an Engine to: the `WAFPolicy` its controller reference names. -/
def Engine.ownerKey? (e : Engine) : Option ObjectKey :=
  Handler.ownerRequest Controller.wafPolicyGroup Controller.wafPolicyKind e.namespace e.ownerReferences

namespace Controller

open Handler Workqueue

/-- The watch on the policies: `For` with `GenerationChangedPredicate`. -/
def forPolicy (ev : WatchEvent WAFPolicy) : List ObjectKey :=
  if generationChanged WAFPolicy.generation ev then enqueueRequestForObject WAFPolicy.key ev else []

/-- The watch on the Engines: `Owns`. -/
def ownsEngine (ev : WatchEvent Engine) : List ObjectKey :=
  enqueueRequestForOwner wafPolicyGroup wafPolicyKind Engine.namespace Engine.ownerReferences ev

/-- The watches on the Gateways and the HTTPRoutes, through the mappers; no other kind is watched. -/
def watchesTarget (list : String → Except ApiError (List WAFPolicy)) (gvk : GroupVersionKind)
    (ev : WatchEvent Unstructured) : List ObjectKey :=
  if gvk = gatewayGVK then enqueueRequestsFromMapFunc (findPoliciesForGateway list) ev
  else if gvk = httpRouteGVK then enqueueRequestsFromMapFunc (findPoliciesForHTTPRoute list) ev
  else []

/-- The requests the controller's watches make for the change at `pos` from `old` to `new`, with
`list` the cache's listing of policies the mappers read. -/
def watchRequests (list : String → Except ApiError (List WAFPolicy)) :
    Pos → Option Obj → Option Obj → List ObjectKey
  | .policy _, old, new => forPolicy ⟨old.bind Obj.policy?, new.bind Obj.policy?⟩
  | .engine _, old, new => ownsEngine ⟨old.bind Obj.engine?, new.bind Obj.engine?⟩
  | .object gvk _, old, new => watchesTarget list gvk ⟨old.bind Obj.object?, new.bind Obj.object?⟩

/-- The kind a pass reads a policy's target as: `Reconcile`'s `switch`. -/
def targetGVK (policy : WAFPolicy) : Option GroupVersionKind :=
  if policy.spec.targetRef.kind = "Gateway" then some gatewayGVK
  else if policy.spec.targetRef.kind = "HTTPRoute" then some httpRouteGVK
  else none

/-! ### What each watch enqueues -/

theorem mem_forPolicy {ev : WatchEvent WAFPolicy} {key : ObjectKey}
    (hold : ∀ p, ev.old = some p → p.key = key) (hnew : ∀ p, ev.new = some p → p.key = key)
    (h : ev.old.map WAFPolicy.generation ≠ ev.new.map WAFPolicy.generation) :
    key ∈ forPolicy ev := by
  obtain ⟨old, new⟩ := ev
  cases old <;> cases new <;>
    simp_all [forPolicy, generationChanged, enqueueRequestForObject, eq_comm]

theorem of_mem_forPolicy {ev : WatchEvent WAFPolicy} {key : ObjectKey} (h : key ∈ forPolicy ev) :
    generationChanged WAFPolicy.generation ev = true ∧ ∃ p ∈ ev.objects, p.key = key := by
  unfold forPolicy at h
  split_ifs at h with hgen
  · obtain ⟨old, new⟩ := ev
    refine ⟨hgen, ?_⟩
    cases old <;> cases new <;>
      simp only [enqueueRequestForObject, List.mem_singleton, List.not_mem_nil] at h <;>
      exact ⟨_, by simp, h.symm⟩
  · exact absurd h (List.not_mem_nil _)

theorem mem_ownsEngine {ev : WatchEvent Engine} {key : ObjectKey} :
    key ∈ ownsEngine ev ↔ ∃ e ∈ ev.objects, e.ownerKey? = some key :=
  mem_enqueueRequestForOwner

theorem mem_watchesTarget {list : String → Except ApiError (List WAFPolicy)} {gvk : GroupVersionKind}
    {ev : WatchEvent Unstructured} {o : Unstructured} (ho : o ∈ ev.objects) {p : WAFPolicy}
    {items : List WAFPolicy} (hlist : list o.namespace = .ok items) (hp : p ∈ items)
    (hgvk : targetGVK p = some gvk)
    (hname : p.spec.targetRef.name = o.name) : p.key ∈ watchesTarget list gvk ev := by
  have hfind (kind : String) (hkind : p.spec.targetRef.kind = kind) :
      p.key ∈ findPoliciesForTarget list kind o.name o.namespace := by
    simp only [findPoliciesForTarget, hlist, List.mem_filterMap]
    exact ⟨p, hp, by rw [if_pos ⟨hkind, hname⟩]; rfl⟩
  unfold targetGVK at hgvk
  unfold watchesTarget
  split_ifs at hgvk with hgw hroute <;> cases hgvk
  · rw [if_pos rfl]
    exact mem_enqueueRequestsFromMapFunc.mpr ⟨o, ho, hfind _ hgw⟩
  · rw [if_neg (by decide), if_pos rfl]
    exact mem_enqueueRequestsFromMapFunc.mpr ⟨o, ho, hfind _ hroute⟩

end Controller

end CorazaOperator
