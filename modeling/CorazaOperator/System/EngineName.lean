import CorazaOperator.Proof.EngineSync
import CorazaOperator.System.PassRules

/-!
# The Engine name against the server's name rule

`ensureEngine` names a policy's Engine `EngineNamePrefix ++ policy.name`. The server creates an
object only under a DNS-1123 subdomain name of at most `253` characters, so every stored policy has
such a name. The prefix `wafpolicy-` ends inside a label after a `-`. Put in front of an admitted
name, it keeps every rule of the pattern (`Validation.dns1123Subdomain_append`), and only the length
can break. The Engine name is admitted exactly when the policy name has at most `243` characters.

An admitted policy name of `244` to `253` characters therefore gets no Engine: no Engine is stored
under its Engine name, and every pass whose target resolves is refused the create, so it marks the
policy Programmed False, `EngineSyncFailed`, and returns the server's `Invalid`.
-/

namespace CorazaOperator

namespace Controller

open Validation Apimeta

theorem engineNamePrefix_scan : SubdomainScan.labelStart.scan EngineNamePrefix.data = .hyphen := by
  decide

theorem engineNamePrefix_length : EngineNamePrefix.length = 10 := by
  decide

theorem engineFor_name (policy : WAFPolicy) : (engineFor policy).name = EngineNamePrefix ++ policy.name :=
  rfl

theorem engineName_dns1123Subdomain_iff {policy : WAFPolicy} (h : DNS1123Subdomain policy.name) :
    DNS1123Subdomain (engineFor policy).name ↔
      policy.name.length ≤ DNS1123SubdomainMaxLength - EngineNamePrefix.length := by
  rw [engineFor_name, dns1123Subdomain_append engineNamePrefix_scan h, engineNamePrefix_length]
  unfold DNS1123SubdomainMaxLength
  omega

theorem engineName_not_dns1123Subdomain {policy : WAFPolicy}
    (hlong : DNS1123SubdomainMaxLength - EngineNamePrefix.length < policy.name.length) :
    ¬DNS1123Subdomain (engineFor policy).name := by
  intro hv
  have hlen := (dns1123Subdomain_iff.mp hv).1
  rw [engineFor_name, String.length_append, engineNamePrefix_length] at hlen
  rw [engineNamePrefix_length] at hlong
  unfold DNS1123SubdomainMaxLength at hlen hlong
  omega

section refused

variable (cfg : WAFPolicyTranslatorConfig) (now : Time) {s : Store} {policy : WAFPolicy} {g : String}

/-- A pass for a live policy whose target resolves and whose Engine name the server refuses: the
Engine key is empty, the create is refused, no Engine changes, the policy is marked Programmed
False, `EngineSyncFailed`, and the pass returns the server's error. -/
theorem run_reconcile_engineName_refused (hs : s.WellFormed) (h : s.policies policy.key = some policy)
    (hlive : policy.deletionTimestamp = none) (hres : ResolvesTo s policy g)
    (hname : ¬DNS1123Subdomain (engineFor policy).name) :
    let pass := (reconcile cfg now policy.key).run s []
    pass.1.2 = some (.api (Store.invalidName Store.engineGroupKind (engineFor policy).name)) ∧
    pass.2.1.engines = s.engines ∧
    ∃ p c, pass.2.1.policies policy.key = some p ∧
      findStatusCondition p.conditions "Programmed" = some c ∧
      c.status = .conditionFalse ∧ c.reason = "EngineSyncFailed" := by
  intro pass
  have hs1 := wellFormed_finalizerStep hs h hlive
  have hkey := finalizerStep_key (s := s) hlive
  have hstored := finalizerStep_stored_self h hlive
  have hengine := finalizerStep_engineFor (s := s) hlive
  have hname' : ¬DNS1123Subdomain (engineFor (finalizerStep s policy).1).name := by
    rwa [hengine]
  obtain ⟨read, -, hrt⟩ := run_reconcileTarget_resolved cfg now
    (σ := (finalizerStep s policy).2.2 ++ []) ((resolvesTo_finalizerStep hlive g).mpr hres)
  have hpass : pass = _ := (run_reconcile_live cfg now h hlive).trans
    (hrt.trans (run_ensureEngine_invalidName now hstored (hs1.engines_eq_none hname') hname'))
  obtain ⟨rv', hpatched⟩ := Store.patchConditions_policies_self (finalizerStep s policy).1
    (syncFailedConditions now (finalizerStep s policy).1
      (.api (Store.invalidName Store.engineGroupKind (engineFor policy).name))) hstored
  obtain ⟨c, hc, hstatus, hreason⟩ := programmed_syncFailedConditions now (finalizerStep s policy).1
    (.api (Store.invalidName Store.engineGroupKind (engineFor policy).name))
  rw [hpass, hengine]
  rw [hkey] at hpatched
  exact ⟨rfl, by simp, _, c, hpatched, hc, hstatus, hreason⟩

/-- For a policy the store holds, and whose name the store therefore admitted, the Engine name is a
DNS-1123 subdomain exactly when the policy name has at most `243` characters. When it has more, no
Engine is stored under that name, and a pass for the live policy whose target resolves is refused
the create: it writes no Engine, marks the policy Programmed False, `EngineSyncFailed`, and returns
the server's `Invalid`. -/
theorem reconcile_engine_name (hs : s.WellFormed) (h : s.policies policy.key = some policy) :
    (DNS1123Subdomain (engineFor policy).name ↔
      policy.name.length ≤ DNS1123SubdomainMaxLength - EngineNamePrefix.length) ∧
    (DNS1123SubdomainMaxLength - EngineNamePrefix.length < policy.name.length →
      s.engines (engineFor policy).key = none ∧
      ∀ g, policy.deletionTimestamp = none → ResolvesTo s policy g →
        let pass := (reconcile cfg now policy.key).run s []
        pass.1.2 = some (.api (Store.invalidName Store.engineGroupKind (engineFor policy).name)) ∧
        pass.2.1.engines = s.engines ∧
        ∃ p c, pass.2.1.policies policy.key = some p ∧
          findStatusCondition p.conditions "Programmed" = some c ∧
          c.status = .conditionFalse ∧ c.reason = "EngineSyncFailed") := by
  refine ⟨engineName_dns1123Subdomain_iff (hs.policy_name h), fun hlong => ?_⟩
  have hname := engineName_not_dns1123Subdomain hlong
  exact ⟨hs.engines_eq_none hname, fun g hlive hres =>
    run_reconcile_engineName_refused cfg now hs h hlive hres hname⟩

end refused

/-! ### A policy named with `253` letters -/

/-- The longest name the server admits: `253` letters. -/
def longName : String := ⟨List.replicate 253 'a'⟩

theorem alphanumeric_scan_replicate (n : Nat) :
    SubdomainScan.alphanumeric.scan (List.replicate n 'a') = .alphanumeric := by
  induction n with
  | zero => rfl
  | succ n ih =>
    rw [List.replicate_succ, SubdomainScan.scan_cons,
      show SubdomainScan.alphanumeric.next 'a' = .alphanumeric by decide]
    exact ih

theorem longName_length : longName.length = 253 := List.length_replicate ..

theorem longName_dns1123Subdomain : DNS1123Subdomain longName := by
  refine dns1123Subdomain_iff.mpr ⟨longName_length.le, ?_⟩
  show SubdomainScan.labelStart.scan ('a' :: List.replicate 252 'a') = _
  rw [SubdomainScan.scan_cons, show SubdomainScan.labelStart.next 'a' = .alphanumeric by decide]
  exact alphanumeric_scan_replicate 252

/-- `serviceParentPolicy` under the long name. -/
def longNamePolicy : WAFPolicy := { serviceParentPolicy with name := longName }

/-- `longNamePolicy` as the server stores it. -/
def storedLongNamePolicy : WAFPolicy := { longNamePolicy with generation := 1, resourceVersion := 2 }

/-- `serviceParentStore` after another client created `longNamePolicy`
(`exec_createPolicy_longNamePolicy`). -/
def longNameStore : Store := serviceParentStore.setPolicy longNamePolicy.key (some storedLongNamePolicy)

theorem exec_createPolicy_longNamePolicy :
    serviceParentStore.exec (.createPolicy longNamePolicy) = (.ok (), longNameStore) := by
  have hname : DNS1123Subdomain longNamePolicy.name := longName_dns1123Subdomain
  have hne : longNamePolicy.key ≠ serviceParentPolicy.key := by decide
  have hfree : serviceParentStore.policies longNamePolicy.key = none := by
    simp [serviceParentStore, hne]
  show serviceParentStore.createPolicy longNamePolicy = _
  unfold Store.createPolicy
  rw [if_neg (not_not.mpr hname), hfree, if_neg (by decide)]
  rfl

theorem wellFormed_longNameStore : longNameStore.WellFormed := by
  have h := wellFormed_serviceParentStore.exec (.createPolicy longNamePolicy)
  rwa [exec_createPolicy_longNamePolicy] at h

theorem longNameStore_policy :
    longNameStore.policies storedLongNamePolicy.key = some storedLongNamePolicy :=
  Store.setPolicy_policies_self ..

theorem resolvesTo_longNameStore : ResolvesTo longNameStore storedLongNamePolicy "svc" :=
  (resolvesTo_congr (Store.setPolicy_objects ..) (Store.setPolicy_namespaced ..) _ _).mpr
    (.inr ⟨rfl, _, serviceParentStore_get_route, _, [], rfl, rfl, by decide⟩)

theorem storedLongNamePolicy_long :
    DNS1123SubdomainMaxLength - EngineNamePrefix.length < storedLongNamePolicy.name.length := by
  rw [engineNamePrefix_length, show storedLongNamePolicy.name = longName from rfl, longName_length]
  decide

theorem engineName_longNamePolicy_length : (engineFor longNamePolicy).name.length = 263 := by
  rw [engineFor_name, String.length_append, engineNamePrefix_length,
    show longNamePolicy.name = longName from rfl, longName_length]

/-- The server admits a policy named with `253` letters. Its Engine name has `263` characters, which
the server refuses, and a pass for it whose route resolves returns the server's `Invalid`. -/
theorem reconcile_refuses_long_engine_name :
    (serviceParentStore.exec (.createPolicy longNamePolicy)).1 = .ok () ∧
    (engineFor longNamePolicy).name.length = 263 ∧
    ¬DNS1123Subdomain (engineFor longNamePolicy).name ∧
    ((reconcile testTranslatorConfig 0 storedLongNamePolicy.key).run longNameStore []).1.2 =
      some (.api (Store.invalidName Store.engineGroupKind (engineFor longNamePolicy).name)) := by
  have hlong := storedLongNamePolicy_long
  refine ⟨congrArg Prod.fst exec_createPolicy_longNamePolicy, engineName_longNamePolicy_length,
    engineName_not_dns1123Subdomain hlong, ?_⟩
  exact (run_reconcile_engineName_refused testTranslatorConfig 0 wellFormed_longNameStore
    longNameStore_policy rfl resolvesTo_longNameStore (engineName_not_dns1123Subdomain hlong)).1

theorem reconcile_engine_name_longName :
    longNameStore.WellFormed ∧
    longNameStore.policies storedLongNamePolicy.key = some storedLongNamePolicy ∧
    ((DNS1123Subdomain (engineFor storedLongNamePolicy).name ↔
      storedLongNamePolicy.name.length ≤ DNS1123SubdomainMaxLength - EngineNamePrefix.length) ∧
    (DNS1123SubdomainMaxLength - EngineNamePrefix.length < storedLongNamePolicy.name.length →
      longNameStore.engines (engineFor storedLongNamePolicy).key = none ∧
      ∀ g, storedLongNamePolicy.deletionTimestamp = none → ResolvesTo longNameStore storedLongNamePolicy g →
        let pass := (reconcile testTranslatorConfig 0 storedLongNamePolicy.key).run longNameStore []
        pass.1.2 =
          some (.api (Store.invalidName Store.engineGroupKind (engineFor storedLongNamePolicy).name)) ∧
        pass.2.1.engines = longNameStore.engines ∧
        ∃ p c, pass.2.1.policies storedLongNamePolicy.key = some p ∧
          findStatusCondition p.conditions "Programmed" = some c ∧
          c.status = .conditionFalse ∧ c.reason = "EngineSyncFailed")) :=
  ⟨wellFormed_longNameStore, longNameStore_policy,
    reconcile_engine_name testTranslatorConfig 0 wellFormed_longNameStore longNameStore_policy⟩

end Controller

end CorazaOperator
