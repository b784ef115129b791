import CorazaOperator.Proof.Pass

/-!
# Which Gateway an Engine is bound to

A pass for a live policy writes its Engine only after the target resolved, and then with the
workload selector `{gateway.networking.k8s.io/gateway-name: g}`. For a Gateway target `g` is the
target's name and the Gateway was found; for an HTTPRoute target the route was found and `g` is the
non-empty string `name` of its first parent reference. The code reads nothing else of that
reference: its `kind`, `group` and `namespace` are not looked at, so a route whose first parent is a
Service, or a Gateway of another namespace, binds the Engine to the pods of whatever Gateway of the
policy's namespace carries that name. `ResolvesToLocalGateway` is the stricter reading, and
`reconcile_binds_engine_to_service_parent` is a route it rejects and the pass accepts.

When the target resolves to no Gateway, the pass writes no Engine and leaves the policy with
Accepted False, for one of four reasons: the three of a missing or malformed target, and
`InvalidTargetRef` for a kind other than Gateway and HTTPRoute.
-/

namespace CorazaOperator

namespace Controller

open Apimeta

section

variable {s : Store} {policy : WAFPolicy}

theorem resolvesTo_finalizerStep (hlive : policy.deletionTimestamp = none) (gatewayName : String) :
    ResolvesTo (finalizerStep s policy).2.1 (finalizerStep s policy).1 gatewayName ↔
      ResolvesTo s policy gatewayName := by
  obtain ⟨rv, hp⟩ := finalizerStep_policy (s := s) hlive
  rw [resolvesTo_congr finalizerStep_objects finalizerStep_namespaced, hp]
  rfl

theorem not_engineWrite_of_read {ev : Event} (h : ¬ev.call.IsWrite) (e : Engine) :
    ev.call ≠ .createEngine e ∧ ev.call ≠ .updateEngine e := by
  constructor <;> rintro heq <;> rw [heq] at h <;> exact h trivial

theorem engineSpec_workloadSelector (cfg : WAFPolicyTranslatorConfig) (policy : WAFPolicy)
    (labels : List (String × String)) :
    (engineSpec cfg policy labels).workloadSelector = some { matchLabels := labels } := rfl

/-! ### A store to run passes against -/

/-- A route in `default` whose first parent reference is the Service `svc`. -/
def serviceParentRoute : Unstructured where
  gvk := httpRouteGVK
  «namespace» := "default"
  name := "route"
  resourceVersion := 1
  content := [("spec", .object [("parentRefs",
    .array [.object [("kind", .string "Service"), ("name", .string "svc")]])])]

/-- A live policy, already carrying its finalizer, that targets `serviceParentRoute`. -/
def serviceParentPolicy : WAFPolicy where
  «namespace» := "default"
  name := "waf"
  finalizers := [wafPolicyFinalizer]
  spec := { targetRef := { kind := "HTTPRoute", name := "route" } }

/-- A store with the policy and the route, and no Engine. -/
def serviceParentStore : Store where
  policies key := if key = serviceParentPolicy.key then some serviceParentPolicy else none
  engines _ := none
  objects gvk key :=
    if gvk = httpRouteGVK ∧ key = serviceParentRoute.key then some serviceParentRoute else none
  namespaced _ := true
  revision := 2

theorem serviceParentStore_get_route :
    serviceParentStore.get httpRouteGVK ⟨"default", "route"⟩ = .ok serviceParentRoute := by
  rfl

/-- The translator configuration of the controller's tests. -/
def testTranslatorConfig : WAFPolicyTranslatorConfig where
  defaultWasmImage := "oci://ghcr.io/test/coraza-proxy-wasm:latest"
  defaultPollInterval := 15
  envoyClusterName := "test-cluster"

theorem serviceParentStore_policy :
    serviceParentStore.policies serviceParentPolicy.key = some serviceParentPolicy := by
  simp [serviceParentStore]

theorem serviceParentStore_at {pos : Pos} {o : Obj} (h : serviceParentStore.at pos = some o) :
    (pos = .policy serviceParentPolicy.key ∧ o = .policy serviceParentPolicy) ∨
    (pos = .object httpRouteGVK serviceParentRoute.key ∧ o = .object serviceParentRoute) := by
  cases pos with
  | policy key =>
    simp only [Store.at, serviceParentStore] at h
    split_ifs at h with hk
    · cases h
      exact .inl ⟨by rw [hk], rfl⟩
    · cases h
  | engine key => cases h
  | object gvk key =>
    simp only [Store.at, serviceParentStore] at h
    split_ifs at h with hk
    · cases h
      exact .inr ⟨by rw [hk.1, hk.2], rfl⟩
    · cases h

theorem wellFormed_serviceParentStore : serviceParentStore.WellFormed where
  pos_eq pos o h := by rcases serviceParentStore_at h with ⟨rfl, rfl⟩ | ⟨rfl, rfl⟩ <;> rfl
  admitted pos o h := by rcases serviceParentStore_at h with ⟨rfl, rfl⟩ | ⟨rfl, rfl⟩ <;> trivial
  lt_revision pos o h := by rcases serviceParentStore_at h with ⟨rfl, rfl⟩ | ⟨rfl, rfl⟩ <;> decide
  rv_unique pos pos' o o' h h' hrv := by
    rcases serviceParentStore_at h with ⟨rfl, rfl⟩ | ⟨rfl, rfl⟩ <;>
      rcases serviceParentStore_at h' with ⟨rfl, rfl⟩ | ⟨rfl, rfl⟩ <;>
      first | rfl | exact absurd hrv (by decide)

theorem resolvesTo_serviceParent : ResolvesTo serviceParentStore serviceParentPolicy "svc" :=
  .inr ⟨rfl, _, serviceParentStore_get_route, _, [], rfl, rfl, by decide⟩

theorem run_reconcile_serviceParent (cfg : WAFPolicyTranslatorConfig) (now : Time) :
    (reconcile cfg now serviceParentPolicy.key).run serviceParentStore [] =
      (({}, none),
        (serviceParentStore.setEngine (engineFor serviceParentPolicy).key
          (some { ownedEngine cfg serviceParentPolicy [(gatewayNameLabel, "svc")]
            (engineFor serviceParentPolicy) with resourceVersion := 2 })).patchConditions
          serviceParentPolicy (programmedConditions serviceParentPolicy
            (engineFor serviceParentPolicy).name .operationResultCreated now),
        [patchEvent serviceParentPolicy (programmedConditions serviceParentPolicy
            (engineFor serviceParentPolicy).name .operationResultCreated now),
          ⟨.createEngine (ownedEngine cfg serviceParentPolicy [(gatewayNameLabel, "svc")]
            (engineFor serviceParentPolicy)), .ok ()⟩,
          ⟨.getEngine (engineFor serviceParentPolicy).key,
            serviceParentStore.getEngine (engineFor serviceParentPolicy).key⟩,
          ⟨.get httpRouteGVK ⟨"default", "route"⟩, .ok serviceParentRoute⟩,
          ⟨.getPolicy serviceParentPolicy.key, .ok serviceParentPolicy⟩]) := by
  have hstep : finalizerStep serviceParentStore serviceParentPolicy =
      (serviceParentPolicy, serviceParentStore,
        [⟨.getPolicy serviceParentPolicy.key, .ok serviceParentPolicy⟩]) := by
    simp [finalizerStep, Controllerutil.containsFinalizer, serviceParentPolicy]
  have hkind : serviceParentPolicy.spec.targetRef.kind ≠ "Gateway" := by decide
  have hroute : serviceParentPolicy.spec.targetRef.kind = "HTTPRoute" := rfl
  have hparent : routeParentGateway "route" serviceParentRoute = .ok "svc" := rfl
  rw [run_reconcile_live cfg now serviceParentStore_policy rfl, hstep, List.append_nil]
  simp only [reconcileTarget, if_neg hkind, if_pos hroute]
  rw [run_reconcileForHTTPRoute_found cfg now serviceParentStore_get_route hparent,
    run_ensureEngine_create now serviceParentStore_policy rfl (by decide)]
  rfl

/-- `serviceParentStore` after a pass of its policy. -/
def servedStore : Store :=
  ((reconcile testTranslatorConfig 0 serviceParentPolicy.key).run serviceParentStore []).2.1

/-- The controller reference of another object. -/
def foreignController : OwnerReference where
  apiVersion := "apps/v1"
  kind := "Deployment"
  name := "other"
  uid := "other-uid"
  controller := some true
  blockOwnerDeletion := none

/-- An Engine at the key named for `serviceParentPolicy`, with the given owner references and an
empty spec, which is not the spec the controller synthesizes. -/
def priorEngine (ownerReferences : List OwnerReference) : Engine where
  «namespace» := "default"
  name := "wafpolicy-waf"
  ownerReferences := ownerReferences

/-- `serviceParentStore` after another client created `priorEngine refs`. -/
def priorEngineStore (refs : List OwnerReference) : Store :=
  (serviceParentStore.exec (.createEngine (priorEngine refs))).2

/-- A pass for a live policy writes only the policy's Engine, and only with the selector of the
Gateway the target resolves to; when the target resolves to none, it writes no Engine and sets
Accepted False with one of the four reasons. -/
theorem reconcile_engine_for_resolved_target (cfg : WAFPolicyTranslatorConfig) (now : Time)
    (hs : s.WellFormed) (h : s.policies policy.key = some policy)
    (hlive : policy.deletionTimestamp = none) :
    let pass := (reconcile cfg now policy.key).run s []
    (∀ k, k ≠ (engineFor policy).key → pass.2.1.engines k = s.engines k) ∧
    (∀ ev ∈ pass.2.2, ∀ e, (ev.call = .createEngine e ∨ ev.call = .updateEngine e) →
      e.key = (engineFor policy).key ∧
      ∃ g, ResolvesTo s policy g ∧
        e.spec.workloadSelector = some { matchLabels := [(gatewayNameLabel, g)] }) ∧
    ((∀ g, ¬ResolvesTo s policy g) →
      pass.2.1.engines = s.engines ∧
      ∃ p c, pass.2.1.policies policy.key = some p ∧ findStatusCondition p.conditions "Accepted" = some c ∧
        c.status = .conditionFalse ∧ c.reason ∈ notResolvedReasons) := by
  intro pass
  have hs1 := wellFormed_finalizerStep hs h hlive
  have hstored := finalizerStep_stored_self h hlive
  have hengine := finalizerStep_engineFor (s := s) hlive
  have hpass : pass = _ := run_reconcile_live cfg now h hlive
  by_cases hres : ∃ g, ResolvesTo s policy g
  · obtain ⟨g, hg⟩ := hres
    obtain ⟨read, hread, hrt⟩ := run_reconcileTarget_resolved cfg now (σ := (finalizerStep s policy).2.2 ++ [])
      ((resolvesTo_finalizerStep hlive g).mpr hg)
    obtain ⟨hother, evs, htrace, hwrites⟩ := @ensureEngine_writes cfg _ [(gatewayNameLabel, g)] now _
      (read :: ((finalizerStep s policy).2.2 ++ [])) hs1 hstored
    rw [hrt] at hpass
    refine ⟨fun k hk => ?_, fun ev hev e hw => ?_, fun hnone => (hnone g hg).elim⟩
    · rw [hpass, hother k (hengine ▸ hk), finalizerStep_engines]
    · rw [hpass, htrace] at hev
      simp only [List.mem_append, List.mem_cons, List.append_nil] at hev
      rcases hev with hev | rfl | hev
      · obtain ⟨hkey, hspec⟩ := hwrites ev hev e hw
        exact ⟨hengine ▸ hkey, g, hg, by rw [hspec, engineSpec_workloadSelector]⟩
      · have := not_engineWrite_of_read hread e
        exact (hw.elim this.1 this.2).elim
      · have := (finalizerStep_events ev hev).2 e
        exact (hw.elim this.1 this.2).elim
  · push_neg at hres
    obtain ⟨result, reason, message, reads, hreason, hreads, hrt⟩ :=
      run_reconcileTarget_unresolved cfg now (σ := (finalizerStep s policy).2.2 ++ []) hs1 hstored
        fun g => (resolvesTo_finalizerStep hlive g).not.mpr (hres g)
    rw [hrt] at hpass
    refine ⟨fun k _ => by rw [hpass]; simp, fun ev hev e hw => ?_, fun _ => ⟨by rw [hpass]; simp, ?_⟩⟩
    · rw [hpass] at hev
      simp only [List.mem_cons, List.mem_append, List.append_nil] at hev
      rcases hev with rfl | hev | hev
      · rcases hw with hw | hw <;> cases hw
      · have := not_engineWrite_of_read (hreads ev hev) e
        exact (hw.elim this.1 this.2).elim
      · have := (finalizerStep_events ev hev).2 e
        exact (hw.elim this.1 this.2).elim
    · obtain ⟨rv', hpatched⟩ := Store.patchConditions_policies_self (finalizerStep s policy).1
        (notAcceptedConditions now (finalizerStep s policy).1 reason message) hstored
      obtain ⟨c, hc, hstatus, hcreason⟩ :=
        accepted_notAcceptedConditions now (finalizerStep s policy).1 reason message
      rw [finalizerStep_key hlive] at hpatched
      exact ⟨_, c, by rw [hpass]; exact hpatched, hc, hstatus, hcreason ▸ hreason⟩

theorem reconcile_engine_for_resolved_target_serviceParent :
    serviceParentStore.WellFormed ∧
    serviceParentStore.policies serviceParentPolicy.key = some serviceParentPolicy ∧
    serviceParentPolicy.deletionTimestamp = none ∧
    let pass := (reconcile testTranslatorConfig 0 serviceParentPolicy.key).run serviceParentStore []
    (∀ k, k ≠ (engineFor serviceParentPolicy).key → pass.2.1.engines k = serviceParentStore.engines k) ∧
    (∀ ev ∈ pass.2.2, ∀ e, (ev.call = .createEngine e ∨ ev.call = .updateEngine e) →
      e.key = (engineFor serviceParentPolicy).key ∧
      ∃ g, ResolvesTo serviceParentStore serviceParentPolicy g ∧
        e.spec.workloadSelector = some { matchLabels := [(gatewayNameLabel, g)] }) ∧
    ((∀ g, ¬ResolvesTo serviceParentStore serviceParentPolicy g) →
      pass.2.1.engines = serviceParentStore.engines ∧
      ∃ p c, pass.2.1.policies serviceParentPolicy.key = some p ∧
        findStatusCondition p.conditions "Accepted" = some c ∧
        c.status = .conditionFalse ∧ c.reason ∈ notResolvedReasons) :=
  ⟨wellFormed_serviceParentStore, serviceParentStore_policy, rfl,
    reconcile_engine_for_resolved_target testTranslatorConfig 0 wellFormed_serviceParentStore
      serviceParentStore_policy rfl⟩

/-! ### The stricter reading of a parent reference -/

/-- A parent reference that names a Gateway of the policy's namespace: kind absent or `Gateway`,
group absent or `gateway.networking.k8s.io`, namespace absent or the policy's. -/
def RefersToLocalGateway (policy : WAFPolicy) (parent : List (String × Json)) : Prop :=
  (parent.lookup "kind" = none ∨ parent.lookup "kind" = some (.string "Gateway")) ∧
  (parent.lookup "group" = none ∨
    parent.lookup "group" = some (.string "gateway.networking.k8s.io")) ∧
  (parent.lookup "namespace" = none ∨ parent.lookup "namespace" = some (.string policy.namespace))

/-- `ResolvesTo` with the first parent reference of a route held to name a Gateway of the policy's
namespace. -/
def ResolvesToLocalGateway (s : Store) (policy : WAFPolicy) (gatewayName : String) : Prop :=
  (policy.spec.targetRef.kind = "Gateway" ∧ gatewayName = policy.spec.targetRef.name ∧
    ∃ gateway, s.get gatewayGVK ⟨policy.namespace, gatewayName⟩ = .ok gateway) ∨
  (policy.spec.targetRef.kind = "HTTPRoute" ∧
    ∃ route first rest,
      s.get httpRouteGVK ⟨policy.namespace, policy.spec.targetRef.name⟩ = .ok route ∧
      Unstructured.nestedSlice route.content ["spec", "parentRefs"] =
        .ok (some (.object first :: rest)) ∧
      first.lookup "name" = some (.string gatewayName) ∧ gatewayName ≠ "" ∧
      RefersToLocalGateway policy first)

/-- A route whose first parent reference is a Service: the pass creates the Engine bound to pods
labelled with the Service's name, although no Gateway of the policy's namespace is referred to. -/
theorem reconcile_binds_engine_to_service_parent :
    (∃ e, ((reconcile testTranslatorConfig 0 serviceParentPolicy.key).run serviceParentStore []).2.1.engines
        (engineFor serviceParentPolicy).key = some e ∧
      e.spec.workloadSelector = some { matchLabels := [(gatewayNameLabel, "svc")] }) ∧
    ∀ g, ¬ResolvesToLocalGateway serviceParentStore serviceParentPolicy g := by
  refine ⟨⟨{ ownedEngine testTranslatorConfig serviceParentPolicy [(gatewayNameLabel, "svc")]
      (engineFor serviceParentPolicy) with resourceVersion := 2 }, ?_, rfl⟩, ?_⟩
  · rw [run_reconcile_serviceParent]
    simp
  · rintro g (⟨hk, -⟩ | ⟨-, route, first, rest, hget, hslice, -, -, hkind, -⟩)
    · exact absurd hk (by decide)
    · rw [show serviceParentStore.get httpRouteGVK ⟨serviceParentPolicy.namespace,
        serviceParentPolicy.spec.targetRef.name⟩ = .ok serviceParentRoute from
        serviceParentStore_get_route, Except.ok.injEq] at hget
      subst hget
      have hparents : Unstructured.nestedSlice serviceParentRoute.content ["spec", "parentRefs"] =
          .ok (some [.object [("kind", .string "Service"), ("name", .string "svc")]]) := rfl
      rw [hparents, Except.ok.injEq, Option.some.injEq, List.cons.injEq, Json.object.injEq] at hslice
      obtain ⟨rfl, -⟩ := hslice
      rw [show List.lookup "kind" [("kind", Json.string "Service"), ("name", Json.string "svc")] =
        some (.string "Service") from rfl] at hkind
      simp at hkind
end

end Controller

end CorazaOperator
