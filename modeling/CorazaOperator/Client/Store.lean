import CorazaOperator.Api.Types
import CorazaOperator.Apimachinery.Validation
import Mathlib.Logic.Function.Basic

/-!
# The API server

The store every call of the controller goes to, with the behaviour of the Kubernetes API server
the controller relies on. Every accepted write stamps the object with the store's revision, a
counter no two writes share, so a resource version names one version of one object. An update
must carry the stored version's resource version and is refused with `Conflict` otherwise.
WAFPolicy and Engine are custom resources with a status subresource: an update through the main
resource keeps the stored status, a create drops the status it is given, and only a status patch
changes the conditions. Deleting a policy that still has finalizers only stamps its deletion
timestamp; the update that removes its last finalizer deletes it. A create whose name is not a
DNS-1123 subdomain is refused, as `NameIsDNSSubdomain` does for every custom resource, and an Engine
whose owner references name more than one controller is refused, as `ValidateOwnerReferences` does:
one `Invalid` error lists every field error validation found.

Unstructured objects are addressed as the client addresses them: a cluster-scoped kind ignores the
namespace, and a request for a namespaced kind with an empty namespace never leaves the client:
client-go's preflight check refuses it with an error that carries no API status. The same check
refuses the create of a policy without a namespace, so every stored policy has one.

Reads go to the server, not to an informer cache, and the server returns what it stores: no
defaulting, no admission beyond the rules above, and every accepted write takes a fresh revision
even when it changes nothing.
-/

namespace CorazaOperator

/-- `metav1.StatusReason`, cut to the reasons the controller tells apart and those the store
answers with; any other failure is `other`, and an error that is no API status has reason `""`. -/
inductive StatusReason
  | notFound
  | alreadyExists
  | conflict
  | invalid
  | other (reason : String)
deriving DecidableEq, Repr

/-- An error status the API server answers with. -/
structure ApiError where
  reason : StatusReason
  message : String
deriving DecidableEq, Repr

/-- `apierrors.IsNotFound`. -/
def ApiError.IsNotFound (err : ApiError) : Prop := err.reason = .notFound

instance (err : ApiError) : Decidable err.IsNotFound := inferInstanceAs (Decidable (_ = _))

/-- The objects the API server holds, and its revision counter. -/
structure Store where
  policies : ObjectKey → Option WAFPolicy
  engines : ObjectKey → Option Engine
  objects : GroupVersionKind → ObjectKey → Option Unstructured
  namespaced : GroupVersionKind → Bool
  revision : Nat

namespace Store

/-- `NewNotFound` for a resource and name. -/
def notFound (resource name : String) : ApiError :=
  ⟨.notFound, resource ++ " \"" ++ name ++ "\" not found"⟩

/-- `NewAlreadyExists`. -/
def alreadyExists (resource name : String) : ApiError :=
  ⟨.alreadyExists, resource ++ " \"" ++ name ++ "\" already exists"⟩

/-- `NewConflict` for a stale resource version. -/
def conflict (resource name : String) : ApiError :=
  ⟨.conflict, "Operation cannot be fulfilled on " ++ resource ++ " \"" ++ name ++
    "\": the object has been modified; please apply your changes to the latest version and try again"⟩

/-- A create that carries a resource version. -/
def resourceVersionSet : ApiError :=
  ⟨.invalid, "resourceVersion should not be set on objects to be created"⟩

def wafPolicyGroupKind : String := "WAFPolicy.waf.k8s.coraza.io"

def engineGroupKind : String := "Engine.waf.k8s.coraza.io"

/-- The message of `errors.NewAggregate`: one error as it is, several in brackets, each message once. -/
def aggregateMessage (msgs : List String) : String :=
  match msgs.eraseDups with
  | [msg] => msg
  | msgs => "[" ++ ", ".intercalate msgs ++ "]"

/-- `NewInvalid` for a kind, a name and the field errors validation found. -/
def invalid (qualifiedKind name : String) (errs : List String) : ApiError :=
  ⟨.invalid, qualifiedKind ++ " \"" ++ name ++ "\" is invalid" ++
    if errs = [] then "" else ": " ++ aggregateMessage errs⟩

/-- The field errors of a name that `NameIsDNSSubdomain` refuses: one per reason. -/
def nameErrors (name : String) : List String :=
  (Validation.isDNS1123Subdomain name).map fun msg =>
    "metadata.name: Invalid value: \"" ++ name ++ "\": " ++ msg

/-- A create whose name `NameIsDNSSubdomain` refuses. -/
def invalidName (qualifiedKind name : String) : ApiError :=
  invalid qualifiedKind name (nameErrors name)

/-- An error of the client itself, which reached no server and so has no status reason. -/
def clientError (message : String) : ApiError := ⟨.other "", message⟩

/-- client-go's preflight check of a create under an empty namespace. -/
def emptyNamespaceOnCreate : ApiError :=
  clientError "an empty namespace may not be set during creation"

/-- client-go's preflight check of a get, update or delete by name under an empty namespace. -/
def emptyNamespaceWithName : ApiError :=
  clientError "an empty namespace may not be set when a resource name is provided"

def wafpoliciesResource : String := "wafpolicies.waf.k8s.coraza.io"

def enginesResource : String := "engines.waf.k8s.coraza.io"

/-- The rule of `ValidateOwnerReferences` an Engine write can break. -/
def OwnerReferencesValid (refs : List OwnerReference) : Prop :=
  (refs.filter (fun r => r.controller = some true)).length ≤ 1

instance (refs : List OwnerReference) : Decidable (OwnerReferencesValid refs) :=
  inferInstanceAs (Decidable (_ ≤ _))

/-- The field error of owner references that name more than one controller, without the value and
the controllers it prints. -/
def ownerReferencesErrors (refs : List OwnerReference) : List String :=
  if OwnerReferencesValid refs then []
  else ["metadata.ownerReferences: Invalid value: Only one reference can have Controller set to true"]

/-- The field errors `ValidateObjectMeta` finds in an Engine. -/
def engineErrors (engine : Engine) : List String :=
  nameErrors engine.name ++ ownerReferencesErrors engine.ownerReferences

/-- An Engine update whose owner references name more than one controller. -/
def tooManyControllers (engine : Engine) : ApiError :=
  invalid engineGroupKind engine.name (ownerReferencesErrors engine.ownerReferences)

/-! ### Writing one entry -/

def setPolicy (s : Store) (key : ObjectKey) (policy : Option WAFPolicy) : Store :=
  { s with policies := Function.update s.policies key policy, revision := s.revision + 1 }

def setEngine (s : Store) (key : ObjectKey) (engine : Option Engine) : Store :=
  { s with engines := Function.update s.engines key engine, revision := s.revision + 1 }

def setObject (s : Store) (gvk : GroupVersionKind) (key : ObjectKey) (obj : Option Unstructured) :
    Store :=
  { s with
    objects := Function.update s.objects gvk (Function.update (s.objects gvk) key obj)
    revision := s.revision + 1 }

/-! ### WAFPolicy -/

def getPolicy (s : Store) (key : ObjectKey) : Except ApiError WAFPolicy :=
  match s.policies key with
  | some policy => .ok policy
  | none => .error (notFound wafpoliciesResource key.name)

/-- The version an accepted update of `cur` by `policy` stores: the client's metadata and spec, the
server's status, UID and deletion timestamp, and a generation that moves with the spec. -/
def updatedPolicy (s : Store) (cur policy : WAFPolicy) : WAFPolicy :=
  { policy with
    uid := cur.uid
    deletionTimestamp := cur.deletionTimestamp
    conditions := cur.conditions
    generation := if policy.spec = cur.spec then cur.generation else cur.generation + 1
    resourceVersion := s.revision }

/-- An update through the main resource. -/
def updatePolicy (s : Store) (policy : WAFPolicy) : Except ApiError WAFPolicy × Store :=
  match s.policies policy.key with
  | none => (.error (notFound wafpoliciesResource policy.name), s)
  | some cur =>
    if cur.resourceVersion ≠ policy.resourceVersion then (.error (conflict wafpoliciesResource policy.name), s)
    else
      let updated := s.updatedPolicy cur policy
      if updated.deletionTimestamp.isSome ∧ updated.finalizers = [] then
        (.ok updated, s.setPolicy policy.key none)
      else (.ok updated, s.setPolicy policy.key (some updated))

/-- A JSON merge patch of the status subresource that sets `status.conditions`, or the empty
patch `none`. -/
def patchPolicyStatus (s : Store) (key : ObjectKey) (patch : Option (List Condition)) :
    Except ApiError Unit × Store :=
  match s.policies key with
  | none => (.error (notFound wafpoliciesResource key.name), s)
  | some cur =>
    match patch with
    | none => (.ok (), s)
    | some conditions =>
      (.ok (), s.setPolicy key (some { cur with conditions, resourceVersion := s.revision }))

/-- A create: the status is dropped and the deletion timestamp cleared. -/
def createPolicy (s : Store) (policy : WAFPolicy) : Except ApiError Unit × Store :=
  if policy.namespace = "" then (.error emptyNamespaceOnCreate, s) else
  if ¬Validation.DNS1123Subdomain policy.name then (.error (invalidName wafPolicyGroupKind policy.name), s) else
  match s.policies policy.key with
  | some _ => (.error (alreadyExists wafpoliciesResource policy.name), s)
  | none =>
    if policy.resourceVersion ≠ 0 then (.error resourceVersionSet, s)
    else
      (.ok (), s.setPolicy policy.key (some { policy with
        conditions := [], deletionTimestamp := none, generation := 1, resourceVersion := s.revision }))

/-- A deletion request: immediate without finalizers, otherwise a deletion timestamp. -/
def deletePolicy (s : Store) (key : ObjectKey) (now : Time) : Except ApiError Unit × Store :=
  match s.policies key with
  | none => (.error (notFound wafpoliciesResource key.name), s)
  | some cur =>
    if cur.finalizers = [] then (.ok (), s.setPolicy key none)
    else if cur.deletionTimestamp.isSome then (.ok (), s)
    else
      (.ok (), s.setPolicy key (some { cur with
        deletionTimestamp := some now, resourceVersion := s.revision }))

/-! ### Engine -/

def getEngine (s : Store) (key : ObjectKey) : Except ApiError Engine :=
  match s.engines key with
  | some engine => .ok engine
  | none => .error (notFound enginesResource key.name)

def createEngine (s : Store) (engine : Engine) : Except ApiError Unit × Store :=
  if engineErrors engine ≠ [] then (.error (invalid engineGroupKind engine.name (engineErrors engine)), s)
  else if engine.resourceVersion ≠ 0 then (.error resourceVersionSet, s)
  else
    match s.engines engine.key with
    | some _ => (.error (alreadyExists enginesResource engine.name), s)
    | none => (.ok (), s.setEngine engine.key (some { engine with resourceVersion := s.revision }))

def updateEngine (s : Store) (engine : Engine) : Except ApiError Unit × Store :=
  match s.engines engine.key with
  | none => (.error (notFound enginesResource engine.name), s)
  | some cur =>
    if cur.resourceVersion ≠ engine.resourceVersion then (.error (conflict enginesResource engine.name), s)
    else if ¬OwnerReferencesValid engine.ownerReferences then (.error (tooManyControllers engine), s)
    else (.ok (), s.setEngine engine.key (some { engine with resourceVersion := s.revision }))

def deleteEngine (s : Store) (key : ObjectKey) : Except ApiError Unit × Store :=
  match s.engines key with
  | none => (.error (notFound enginesResource key.name), s)
  | some _ => (.ok (), s.setEngine key none)

/-! ### Unstructured objects -/

/-- The key a request for a kind, namespace and name addresses: `NamespaceIfScoped` drops the
namespace of a cluster-scoped kind, and a namespaced kind with an empty namespace fails the
preflight check. -/
def requestKey (s : Store) (gvk : GroupVersionKind) (ns name : String) : Option ObjectKey :=
  if s.namespaced gvk then (if ns = "" then none else some ⟨ns, name⟩) else some ⟨"", name⟩

def get (s : Store) (gvk : GroupVersionKind) (key : ObjectKey) : Except ApiError Unstructured :=
  match s.requestKey gvk key.namespace key.name with
  | none => .error emptyNamespaceWithName
  | some k =>
    match s.objects gvk k with
    | some obj => .ok obj
    | none => .error (notFound gvk.kind key.name)

def create (s : Store) (obj : Unstructured) : Except ApiError Unit × Store :=
  match s.requestKey obj.gvk obj.namespace obj.name with
  | none => (.error emptyNamespaceOnCreate, s)
  | some k =>
    if obj.resourceVersion ≠ 0 then (.error resourceVersionSet, s)
    else
      match s.objects obj.gvk k with
      | some _ => (.error (alreadyExists obj.gvk.kind obj.name), s)
      | none =>
        (.ok (), s.setObject obj.gvk k (some { obj with
          «namespace» := k.namespace, resourceVersion := s.revision }))

def update (s : Store) (obj : Unstructured) : Except ApiError Unit × Store :=
  match s.requestKey obj.gvk obj.namespace obj.name with
  | none => (.error emptyNamespaceWithName, s)
  | some k =>
    match s.objects obj.gvk k with
    | none => (.error (notFound obj.gvk.kind obj.name), s)
    | some cur =>
      if cur.resourceVersion ≠ obj.resourceVersion then (.error (conflict obj.gvk.kind obj.name), s)
      else
        (.ok (), s.setObject obj.gvk k (some { obj with
          «namespace» := k.namespace, resourceVersion := s.revision }))

def delete (s : Store) (gvk : GroupVersionKind) (key : ObjectKey) : Except ApiError Unit × Store :=
  match s.requestKey gvk key.namespace key.name with
  | none => (.error emptyNamespaceWithName, s)
  | some k =>
    match s.objects gvk k with
    | none => (.error (notFound gvk.kind key.name), s)
    | some _ => (.ok (), s.setObject gvk k none)

/-! ### Reading back a read and a write -/

theorem nameErrors_eq_nil {name : String} : nameErrors name = [] ↔ Validation.DNS1123Subdomain name :=
  List.map_eq_nil_iff

theorem engineErrors_eq_nil {engine : Engine} :
    engineErrors engine = [] ↔
      Validation.DNS1123Subdomain engine.name ∧ OwnerReferencesValid engine.ownerReferences := by
  unfold engineErrors ownerReferencesErrors
  split_ifs with h <;> simp [nameErrors_eq_nil, h]

theorem engineErrors_of_valid {engine : Engine} (h : OwnerReferencesValid engine.ownerReferences) :
    engineErrors engine = nameErrors engine.name := by
  simp [engineErrors, ownerReferencesErrors, h]

theorem getPolicy_eq_ok {s : Store} {key : ObjectKey} {p : WAFPolicy} (h : s.getPolicy key = .ok p) :
    s.policies key = some p := by
  unfold getPolicy at h
  split at h <;> cases h
  assumption

theorem getEngine_eq_ok {s : Store} {key : ObjectKey} {e : Engine} (h : s.getEngine key = .ok e) :
    s.engines key = some e := by
  unfold getEngine at h
  split at h <;> cases h
  assumption

@[simp] theorem setPolicy_policies_self (s : Store) (key : ObjectKey) (p : Option WAFPolicy) :
    (s.setPolicy key p).policies key = p := by simp [setPolicy]

@[simp] theorem setPolicy_policies_ne (s : Store) {key key' : ObjectKey} (p : Option WAFPolicy)
    (h : key' ≠ key) : (s.setPolicy key p).policies key' = s.policies key' := by
  simp [setPolicy, h]

@[simp] theorem setPolicy_engines (s : Store) (key : ObjectKey) (p : Option WAFPolicy) :
    (s.setPolicy key p).engines = s.engines := rfl

@[simp] theorem setPolicy_objects (s : Store) (key : ObjectKey) (p : Option WAFPolicy) :
    (s.setPolicy key p).objects = s.objects := rfl

@[simp] theorem setPolicy_namespaced (s : Store) (key : ObjectKey) (p : Option WAFPolicy) :
    (s.setPolicy key p).namespaced = s.namespaced := rfl

@[simp] theorem setPolicy_revision (s : Store) (key : ObjectKey) (p : Option WAFPolicy) :
    (s.setPolicy key p).revision = s.revision + 1 := rfl

@[simp] theorem setEngine_engines_self (s : Store) (key : ObjectKey) (e : Option Engine) :
    (s.setEngine key e).engines key = e := by simp [setEngine]

@[simp] theorem setEngine_engines_ne (s : Store) {key key' : ObjectKey} (e : Option Engine)
    (h : key' ≠ key) : (s.setEngine key e).engines key' = s.engines key' := by
  simp [setEngine, h]

@[simp] theorem setEngine_policies (s : Store) (key : ObjectKey) (e : Option Engine) :
    (s.setEngine key e).policies = s.policies := rfl

@[simp] theorem setEngine_objects (s : Store) (key : ObjectKey) (e : Option Engine) :
    (s.setEngine key e).objects = s.objects := rfl

@[simp] theorem setEngine_namespaced (s : Store) (key : ObjectKey) (e : Option Engine) :
    (s.setEngine key e).namespaced = s.namespaced := rfl

@[simp] theorem setEngine_revision (s : Store) (key : ObjectKey) (e : Option Engine) :
    (s.setEngine key e).revision = s.revision + 1 := rfl

@[simp] theorem setObject_objects (s : Store) (gvk : GroupVersionKind) (key : ObjectKey)
    (obj : Option Unstructured) (gvk' : GroupVersionKind) (key' : ObjectKey) :
    (s.setObject gvk key obj).objects gvk' key' =
      if gvk' = gvk ∧ key' = key then obj else s.objects gvk' key' := by
  by_cases hg : gvk' = gvk
  · subst hg
    by_cases hk : key' = key <;> simp [setObject, hk]
  · simp [setObject, hg]

@[simp] theorem setObject_policies (s : Store) (gvk : GroupVersionKind) (key : ObjectKey)
    (obj : Option Unstructured) : (s.setObject gvk key obj).policies = s.policies := rfl

@[simp] theorem setObject_engines (s : Store) (gvk : GroupVersionKind) (key : ObjectKey)
    (obj : Option Unstructured) : (s.setObject gvk key obj).engines = s.engines := rfl

@[simp] theorem setObject_namespaced (s : Store) (gvk : GroupVersionKind) (key : ObjectKey)
    (obj : Option Unstructured) : (s.setObject gvk key obj).namespaced = s.namespaced := rfl

@[simp] theorem setObject_revision (s : Store) (gvk : GroupVersionKind) (key : ObjectKey)
    (obj : Option Unstructured) : (s.setObject gvk key obj).revision = s.revision + 1 := rfl

end Store

end CorazaOperator
