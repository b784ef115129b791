import CorazaOperator.Proof.Pass

/-!
# `createOrUpdate` reads one key and writes another

`createOrUpdate` defaults an empty namespace to `default`, but only for its `Get` and its error
messages: `Create` and `Update` are sent the desired object as it is. For a namespaced kind
client-go's preflight check then refuses both before they reach the server. So an object of a
namespaced kind without a namespace is never written, whatever the store holds, although the lookup
was made under `default` and the error names that namespace.

With a namespace set, the read key and the write key agree: two calls in a row both succeed, and
the second leaves the content the first stored.
-/

namespace CorazaOperator

namespace Controller

open Prog

variable {s : Store} {desired : Unstructured} {σ : List Event}

theorem Store.requestKey_empty_namespace {gvk : GroupVersionKind} (h : s.namespaced gvk = true)
    (name : String) : s.requestKey gvk "" name = none := by
  simp [Store.requestKey, h]

/-- Without a namespace, a namespaced kind is never written: every call fails and leaves the store
as it is. -/
theorem createOrUpdate_without_namespace (hgvk : ¬desired.gvk.Empty) (hname : desired.name ≠ "")
    (hns : desired.namespace = "") (hnamespaced : s.namespaced desired.gvk = true) :
    ∃ message, ((createOrUpdate desired).run s σ).1 = some message ∧
      ((createOrUpdate desired).run s σ).2.1 = s := by
  have hcreate : s.create desired = (.error Store.emptyNamespaceOnCreate, s) := by
    simp [Store.create, hns, Store.requestKey_empty_namespace hnamespaced]
  have hupdate (rv : Nat) : s.update { desired with resourceVersion := rv } =
      (.error Store.emptyNamespaceWithName, s) := by
    simp [Store.update, hns, Store.requestKey_empty_namespace hnamespaced]
  simp only [createOrUpdate, hgvk, hname, if_false, Controller.get, Controller.create,
    Controller.update, run_bind, run_call, Store.exec]
  cases s.get desired.gvk ⟨if desired.namespace = "" then NamespaceDefault else desired.namespace,
    desired.name⟩ with
  | error err =>
    by_cases hnf : err.IsNotFound <;> simp [hnf, hcreate, Store.exec]
  | ok resource => simp [hupdate, Store.exec]

theorem createOrUpdate_with_namespace (hgvk : ¬desired.gvk.Empty) (hname : desired.name ≠ "")
    (hns : desired.namespace ≠ "") (hnamespaced : s.namespaced desired.gvk = true)
    (hrv : desired.resourceVersion = 0) :
    ((createOrUpdate desired).run s σ).1 = none ∧
    ∃ u, ((createOrUpdate desired).run s σ).2.1.objects desired.gvk desired.key = some u ∧
      u.content = desired.content := by
  have hkey : s.requestKey desired.gvk desired.namespace desired.name = some desired.key := by
    simp [Store.requestKey, hnamespaced, hns]
    rfl
  have hread : (⟨if desired.namespace = "" then NamespaceDefault else desired.namespace,
      desired.name⟩ : ObjectKey) = desired.key := by
    rw [if_neg hns]
    rfl
  cases hobj : s.objects desired.gvk desired.key with
  | none =>
    have hget : s.get desired.gvk ⟨if desired.namespace = "" then NamespaceDefault
        else desired.namespace, desired.name⟩ = .error (Store.notFound desired.gvk.kind desired.name) := by
      rw [hread]
      simp only [Store.get, Unstructured.key] at hkey hobj ⊢
      simp only [hkey, hobj]
    have hcreate : s.create desired = (.ok (), s.setObject desired.gvk desired.key
        (some { desired with «namespace» := desired.key.namespace, resourceVersion := s.revision })) := by
      simp [Store.create, hkey, hrv, hobj]
    simp only [createOrUpdate, hgvk, hname, if_false, Controller.get, Controller.create, run_bind,
      run_call, Store.exec, hget, hcreate, run_ret, ApiError.IsNotFound, Store.notFound, if_true]
    exact ⟨rfl, { desired with «namespace» := desired.key.namespace, resourceVersion := s.revision },
      by simp, rfl⟩
  | some cur =>
    have hget : s.get desired.gvk ⟨if desired.namespace = "" then NamespaceDefault
        else desired.namespace, desired.name⟩ = .ok cur := by
      rw [hread]
      simp only [Store.get, Unstructured.key] at hkey hobj ⊢
      simp only [hkey, hobj]
    have hupdate : s.update { desired with resourceVersion := cur.resourceVersion } =
        (.ok (), s.setObject desired.gvk desired.key
          (some { desired with «namespace» := desired.key.namespace, resourceVersion := s.revision })) := by
      simp [Store.update, hkey, hobj]
    simp only [createOrUpdate, hgvk, hname, if_false, Controller.get, Controller.update, run_bind,
      run_call, Store.exec, hget, hupdate, run_ret]
    exact ⟨rfl, { desired with «namespace» := desired.key.namespace, resourceVersion := s.revision },
      by simp, rfl⟩

/-- Two calls in a row with a namespace set both succeed, and the content stays at the key. -/
theorem createOrUpdate_twice_with_namespace (hgvk : ¬desired.gvk.Empty) (hname : desired.name ≠ "")
    (hns : desired.namespace ≠ "") (hnamespaced : s.namespaced desired.gvk = true)
    (hrv : desired.resourceVersion = 0) (σ' : List Event) :
    let first := (createOrUpdate desired).run s σ
    let second := (createOrUpdate desired).run first.2.1 σ'
    first.1 = none ∧ second.1 = none ∧
    ∃ u, second.2.1.objects desired.gvk desired.key = some u ∧ u.content = desired.content := by
  intro first second
  have hnamespaced' : first.2.1.namespaced desired.gvk = true := by
    rw [Store.run_namespaced]
    exact hnamespaced
  obtain ⟨h₁, -⟩ := createOrUpdate_with_namespace (σ := σ) hgvk hname hns hnamespaced hrv
  exact ⟨h₁, createOrUpdate_with_namespace hgvk hname hns hnamespaced' hrv⟩

def configMapWithoutNamespace : Unstructured where
  gvk := { version := "v1", kind := "ConfigMap" }
  name := "x"

/-- The store without objects, with every kind namespaced. -/
def emptyStore : Store where
  policies _ := none
  engines _ := none
  objects _ _ := none
  namespaced _ := true
  revision := 1

/-- The lookup is made under `default`, the client refuses the create for want of a namespace, and
the call returns an error naming `default`. -/
theorem createOrUpdate_reads_default_writes_empty :
    ((createOrUpdate configMapWithoutNamespace).run emptyStore []).1 =
      some ("failed to create ConfigMap/x in namespace default: " ++
        "an empty namespace may not be set during creation") ∧
    ((createOrUpdate configMapWithoutNamespace).run emptyStore []).2.1.objects
      configMapWithoutNamespace.gvk ⟨"default", "x"⟩ = none :=
  ⟨rfl, rfl⟩

end Controller

end CorazaOperator
