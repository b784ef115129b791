import CorazaOperator.Apimachinery.Conditions
import CorazaOperator.Apimachinery.Controllerutil
import CorazaOperator.Apimachinery.Unstructured

/-!
# The API types

`WAFPolicy` as `api/v1alpha1` declares it, the `Engine` the controller derives from it, and the
unstructured objects the controller reads targets through. Object metadata is flattened into each
type and cut to the fields the controller or the API server reads: key, UID, resource version,
generation, deletion timestamp, finalizers, labels and owner references. A policy's status is its
condition list.

Fields default to Go's zero values, so `{ }` is the zero value of a type, as in the controller's
composite literals.
-/

namespace CorazaOperator

/-- `types.NamespacedName`, the key of an object. -/
structure ObjectKey where
  «namespace» : String := ""
  name : String := ""
deriving DecidableEq, Repr

/-- `gwapiv1alpha2.LocalPolicyTargetReferenceWithSectionName`. -/
structure LocalPolicyTargetReference where
  group : String := ""
  kind : String := ""
  name : String := ""
  sectionName : Option String := none
deriving DecidableEq, Repr

structure WAFPolicyRuleSetRef where
  name : String := ""
deriving DecidableEq, Repr

/-- `WAFPolicySpec`; `FailurePolicy` is a string type. -/
structure WAFPolicySpec where
  targetRef : LocalPolicyTargetReference := {}
  ruleSet : WAFPolicyRuleSetRef := {}
  failurePolicy : String := ""
deriving DecidableEq, Repr

/-- `WAFPolicy`, with `Status.Conditions` as `conditions`. -/
structure WAFPolicy where
  «namespace» : String := ""
  name : String := ""
  uid : String := ""
  resourceVersion : Nat := 0
  generation : Int := 0
  deletionTimestamp : Option Time := none
  finalizers : List String := []
  spec : WAFPolicySpec := {}
  conditions : List Condition := []
deriving DecidableEq, Repr

def WAFPolicy.key (policy : WAFPolicy) : ObjectKey := ⟨policy.namespace, policy.name⟩

/-! ### The Engine

The Engine API types are not among the sources. The fields modelled are those `ensureEngine`
writes: the rule-set reference, the failure policy, and the Istio WASM driver's image, mode,
workload selector and rule-set cache poll interval. -/

/-- `corev1.ObjectReference`, cut to the fields the controller sets. -/
structure ObjectReference where
  apiVersion : String := ""
  kind : String := ""
  name : String := ""
  «namespace» : String := ""
deriving DecidableEq, Repr

/-- `metav1.LabelSelector`'s `MatchLabels`, a label map as its list of entries. -/
structure LabelSelector where
  matchLabels : List (String × String) := []
deriving DecidableEq, Repr

structure RuleSetCacheServerConfig where
  pollIntervalSeconds : Int := 0
deriving DecidableEq, Repr

/-- `IstioWasmConfig`; pointer fields are options. -/
structure IstioWasmConfig where
  image : String := ""
  mode : String := ""
  workloadSelector : Option LabelSelector := none
  ruleSetCacheServer : Option RuleSetCacheServerConfig := none
deriving DecidableEq, Repr

structure IstioDriverConfig where
  wasm : Option IstioWasmConfig := none
deriving DecidableEq, Repr

structure DriverConfig where
  istio : Option IstioDriverConfig := none
deriving DecidableEq, Repr

structure EngineSpec where
  ruleSet : ObjectReference := {}
  failurePolicy : String := ""
  driver : DriverConfig := {}
deriving DecidableEq, Repr

structure Engine where
  «namespace» : String := ""
  name : String := ""
  resourceVersion : Nat := 0
  labels : List (String × String) := []
  ownerReferences : List OwnerReference := []
  spec : EngineSpec := {}
deriving DecidableEq, Repr

def Engine.key (engine : Engine) : ObjectKey := ⟨engine.namespace, engine.name⟩

/-- The workload selector of an Engine's Istio WASM driver, when it has one. -/
def EngineSpec.workloadSelector (spec : EngineSpec) : Option LabelSelector :=
  spec.driver.istio.bind (·.wasm) |>.bind (·.workloadSelector)

/-! ### Unstructured objects -/

/-- `schema.GroupVersionKind`. -/
structure GroupVersionKind where
  group : String := ""
  version : String := ""
  kind : String := ""
deriving DecidableEq, Repr

def GroupVersionKind.Empty (gvk : GroupVersionKind) : Prop :=
  gvk.group = "" ∧ gvk.version = "" ∧ gvk.kind = ""

instance (gvk : GroupVersionKind) : Decidable gvk.Empty :=
  inferInstanceAs (Decidable (_ ∧ _ ∧ _))

/-- `unstructured.Unstructured`: its kind, the metadata the controller reads, and the rest of
`Object` (spec and status) as a JSON object. -/
structure Unstructured where
  gvk : GroupVersionKind
  «namespace» : String := ""
  name : String := ""
  resourceVersion : Nat := 0
  content : List (String × Json) := []

def Unstructured.key (obj : Unstructured) : ObjectKey := ⟨obj.namespace, obj.name⟩

/-- The Gateway the controller's watches and lookups name. -/
def gatewayGVK : GroupVersionKind := ⟨"gateway.networking.k8s.io", "v1", "Gateway"⟩

/-- The HTTPRoute the controller's watches and lookups name. -/
def httpRouteGVK : GroupVersionKind := ⟨"gateway.networking.k8s.io", "v1", "HTTPRoute"⟩

end CorazaOperator
