import CorazaOperator.Controller.Utils

/-!
# The WAFPolicy controller

`WAFPolicyReconciler`: one reconciliation pass of a WAFPolicy as a `Prog`,
function by function, and the two watch mappers. A pass returns `ctrl.Result` and the error Go
returns, `none` for `nil`.

`fmt.Sprintf("%q", name)` is written as the name between double quotes: the names it quotes are
object names, which have nothing `%q` escapes. Events and log lines are not store calls and are left
out.
-/

namespace CorazaOperator

namespace Controller

open Controllerutil

def EngineNamePrefix : String := "wafpolicy-"

def wafPolicyFinalizer : String := "waf.k8s.coraza.io/wafpolicy-finalizer"

/-- The label the workload selector binds an Engine to its Gateway's pods by. -/
def gatewayNameLabel : String := "gateway.networking.k8s.io/gateway-name"

/-- `wafv1alpha1.IstioIntegrationModeGateway`. -/
def IstioIntegrationModeGateway : String := "gateway"

structure WAFPolicyTranslatorConfig where
  defaultWasmImage : String
  defaultPollInterval : Int
  envoyClusterName : String
deriving DecidableEq, Repr

/-- `ctrl.Result`, cut to the field the controller sets. -/
structure Result where
  requeue : Bool := false
deriving DecidableEq, Repr

/-- The errors a pass returns: the API server's, or the ones `CreateOrUpdate`'s mutate step raises. -/
inductive ReconcileError
  | api (err : ApiError)
  | controllerReference (err : SetControllerReferenceError)
  | mutateKey
deriving DecidableEq, Repr

def ReconcileError.message : ReconcileError → String
  | .api err => err.message
  | .controllerReference err => err.message
  | .mutateKey => "MutateFn cannot mutate object name and/or namespace"

/-! ### Calls through the client -/

/-- `r.Get` of a WAFPolicy. -/
def getPolicy (key : ObjectKey) : Prog (Except ApiError WAFPolicy) := .call (.getPolicy key) .ret

/-- `r.Update` of a WAFPolicy; the reply is the stored version. -/
def updatePolicy (policy : WAFPolicy) : Prog (Except ApiError WAFPolicy) :=
  .call (.updatePolicy policy) .ret

/-- The patch `client.MergeFrom` computes for a status whose conditions went from `base` to
`conditions`: the whole list when it changed, the empty patch otherwise. -/
def mergePatch (base conditions : List Condition) : Option (List Condition) :=
  if conditions = base then none else some conditions

/-- `r.Status().Patch(ctx, policy, client.MergeFrom(base))` after the conditions went from the
base's to `conditions`. -/
def patchStatus (base : WAFPolicy) (conditions : List Condition) : Prog (Except ApiError Unit) :=
  .call (.patchPolicyStatus base.key (mergePatch base.conditions conditions)) .ret

def getEngine (key : ObjectKey) : Prog (Except ApiError Engine) := .call (.getEngine key) .ret

def createEngine (engine : Engine) : Prog (Except ApiError Unit) := .call (.createEngine engine) .ret

def updateEngine (engine : Engine) : Prog (Except ApiError Unit) := .call (.updateEngine engine) .ret

/-! ### `controllerutil.CreateOrUpdate` -/

/-- `mutate`: run the mutate function and refuse a change of name or namespace. -/
def mutate (f : Engine → Except ReconcileError Engine) (key : ObjectKey) (obj : Engine) :
    Except ReconcileError Engine :=
  match f obj with
  | .error err => .error err
  | .ok obj' => if obj'.key = key then .ok obj' else .error .mutateKey

/-- `controllerutil.CreateOrUpdate` of an Engine: get it, mutate it, then create it, leave it, or
update it when the mutation changed it. -/
def createOrUpdateEngine (engine : Engine) (f : Engine → Except ReconcileError Engine) :
    Prog (Except ReconcileError OperationResult) := do
  let key := engine.key
  match ← getEngine key with
  | .error err =>
    if ¬err.IsNotFound then pure (.error (.api err)) else
    match mutate f key engine with
    | .error err => pure (.error err)
    | .ok obj =>
      match ← createEngine obj with
      | .error err => pure (.error (.api err))
      | .ok () => pure (.ok .operationResultCreated)
  | .ok existing =>
    match mutate f key existing with
    | .error err => pure (.error err)
    | .ok obj =>
      if existing = obj then pure (.ok .operationResultNone) else
      match ← updateEngine obj with
      | .error err => pure (.error (.api err))
      | .ok () => pure (.ok .operationResultUpdated)

/-! ### Engine creation -/

/-- The spec `ensureEngine`'s mutate function writes. -/
def engineSpec (cfg : WAFPolicyTranslatorConfig) (policy : WAFPolicy)
    (workloadLabels : List (String × String)) : EngineSpec where
  ruleSet := { apiVersion := "waf.k8s.coraza.io/v1alpha1", kind := "RuleSet",
               name := policy.spec.ruleSet.name }
  failurePolicy := policy.spec.failurePolicy
  driver := { istio := some { wasm := some {
    image := cfg.defaultWasmImage
    mode := IstioIntegrationModeGateway
    workloadSelector := some { matchLabels := workloadLabels }
    ruleSetCacheServer := some { pollIntervalSeconds := cfg.defaultPollInterval } } } }

/-- The policy as the owner `SetControllerReference` gets, with the kind the scheme registers. -/
def policyOwner (policy : WAFPolicy) : Owner where
  apiVersion := "waf.k8s.coraza.io/v1alpha1"
  kind := "WAFPolicy"
  «namespace» := policy.namespace
  name := policy.name
  uid := policy.uid

/-- The mutate function `ensureEngine` passes to `CreateOrUpdate`. -/
def mutateEngine (cfg : WAFPolicyTranslatorConfig) (policy : WAFPolicy)
    (workloadLabels : List (String × String)) (engine : Engine) : Except ReconcileError Engine :=
  let engine := { engine with spec := engineSpec cfg policy workloadLabels }
  match setControllerReference (policyOwner policy) engine.namespace engine.name
      engine.ownerReferences with
  | .error err => .error (.controllerReference err)
  | .ok refs => .ok { engine with ownerReferences := refs }

/-- The Engine a policy derives, as `ensureEngine` first names it. -/
def engineFor (policy : WAFPolicy) : Engine :=
  { name := EngineNamePrefix ++ policy.name, «namespace» := policy.namespace }

/-- The conditions a successful `ensureEngine` sets. -/
def programmedConditions (policy : WAFPolicy) (engineName : String) (result : OperationResult)
    (now : Time) : List Condition :=
  let conditions := Apimeta.setStatusCondition policy.conditions
    { type := "Accepted", status := .conditionTrue, observedGeneration := policy.generation,
      lastTransitionTime := now, reason := "Accepted", message := "WAFPolicy is accepted" }
  Apimeta.setStatusCondition conditions
    { type := "Programmed", status := .conditionTrue, observedGeneration := policy.generation,
      lastTransitionTime := now, reason := "Programmed",
      message := "Engine \"" ++ engineName ++ "\" " ++ result.toString }

/-- The conditions `ensureEngine` patches when the upsert fails: Programmed False. -/
def syncFailedConditions (now : Time) (policy : WAFPolicy) (err : ReconcileError) : List Condition :=
  setConditionFalse policy.conditions policy.generation "Programmed" "EngineSyncFailed"
    ("Failed to create/update Engine: " ++ err.message) now

def ensureEngine (cfg : WAFPolicyTranslatorConfig) (now : Time) (policy : WAFPolicy)
    (workloadLabels : List (String × String)) : Prog (Result × Option ReconcileError) := do
  let engine := engineFor policy
  match ← createOrUpdateEngine engine (mutateEngine cfg policy workloadLabels) with
  | .error err =>
    let _ ← patchStatus policy (syncFailedConditions now policy err)
    pure ({}, some err)
  | .ok result =>
    match ← patchStatus policy (programmedConditions policy engine.name result now) with
    | .error err => pure ({}, some (.api err))
    | .ok () => pure ({}, none)

/-! ### Status, deletion, targets -/

/-- The conditions `setNotAccepted` patches: Accepted False, and no Programmed. -/
def notAcceptedConditions (now : Time) (policy : WAFPolicy) (reason message : String) :
    List Condition :=
  let conditions := Apimeta.setStatusCondition policy.conditions
    { type := "Accepted", status := .conditionFalse, observedGeneration := policy.generation,
      lastTransitionTime := now, reason, message }
  Apimeta.removeStatusCondition conditions "Programmed"

/-- `setNotAccepted`: the patch error, or `none`. -/
def setNotAccepted (now : Time) (policy : WAFPolicy) (reason message : String) :
    Prog (Option ApiError) := do
  match ← patchStatus policy (notAcceptedConditions now policy reason message) with
  | .error err => pure (some err)
  | .ok () => pure none

/-- `return result, r.setNotAccepted(...)`. -/
def notAccepted (now : Time) (policy : WAFPolicy) (result : Result) (reason message : String) :
    Prog (Result × Option ReconcileError) := do
  let err ← setNotAccepted now policy reason message
  pure (result, err.map .api)

def handleDeletion (policy : WAFPolicy) : Prog (Result × Option ReconcileError) :=
  if containsFinalizer policy.finalizers wafPolicyFinalizer then do
    match ← updatePolicy { policy with
        finalizers := removeFinalizer policy.finalizers wafPolicyFinalizer } with
    | .error err => pure ({}, some (.api err))
    | .ok _ => pure ({}, none)
  else pure ({}, none)

def reconcileForGateway (cfg : WAFPolicyTranslatorConfig) (now : Time) (policy : WAFPolicy) :
    Prog (Result × Option ReconcileError) := do
  let gatewayName := policy.spec.targetRef.name
  match ← get gatewayGVK ⟨policy.namespace, gatewayName⟩ with
  | .error err =>
    if err.IsNotFound then
      notAccepted now policy { requeue := true } "TargetNotFound"
        ("Gateway \"" ++ gatewayName ++ "\" not found")
    else pure ({}, some (.api err))
  | .ok _ => ensureEngine cfg now policy [(gatewayNameLabel, gatewayName)]

/-- What `reconcileForHTTPRoute` reads off a route: the name of its first parent reference, or the
reason and message it is not accepted with. -/
def routeParentGateway (routeName : String) (route : Unstructured) : Except (String × String) String :=
  match Unstructured.nestedSlice route.content ["spec", "parentRefs"] with
  | .ok (some (.object firstParent :: _)) =>
    let gatewayName := Unstructured.nestedStringOrEmpty firstParent ["name"]
    if gatewayName = "" then
      .error ("InvalidParentRef", "HTTPRoute \"" ++ routeName ++ "\" parentRef has no gateway name")
    else .ok gatewayName
  | .ok (some (_ :: _)) =>
    .error ("InvalidParentRef", "HTTPRoute \"" ++ routeName ++ "\" has invalid parentRef")
  | _ => .error ("NoParentGateway", "HTTPRoute \"" ++ routeName ++ "\" has no parentRefs")

def reconcileForHTTPRoute (cfg : WAFPolicyTranslatorConfig) (now : Time) (policy : WAFPolicy) :
    Prog (Result × Option ReconcileError) := do
  let routeName := policy.spec.targetRef.name
  match ← get httpRouteGVK ⟨policy.namespace, routeName⟩ with
  | .error err =>
    if err.IsNotFound then
      notAccepted now policy { requeue := true } "TargetNotFound"
        ("HTTPRoute \"" ++ routeName ++ "\" not found")
    else pure ({}, some (.api err))
  | .ok route =>
    match routeParentGateway routeName route with
    | .error (reason, message) => notAccepted now policy {} reason message
    | .ok gatewayName => ensureEngine cfg now policy [(gatewayNameLabel, gatewayName)]

/-- The `switch` of `Reconcile` on the target kind. -/
def reconcileTarget (cfg : WAFPolicyTranslatorConfig) (now : Time) (policy : WAFPolicy) :
    Prog (Result × Option ReconcileError) :=
  let kind := policy.spec.targetRef.kind
  if kind = "Gateway" then reconcileForGateway cfg now policy
  else if kind = "HTTPRoute" then reconcileForHTTPRoute cfg now policy
  else notAccepted now policy {} "InvalidTargetRef" ("Unsupported targetRef kind: " ++ kind)

def reconcile (cfg : WAFPolicyTranslatorConfig) (now : Time) (req : ObjectKey) :
    Prog (Result × Option ReconcileError) := do
  match ← getPolicy req with
  | .error err => if err.IsNotFound then pure ({}, none) else pure ({}, some (.api err))
  | .ok policy =>
    if policy.deletionTimestamp.isSome then handleDeletion policy
    else if containsFinalizer policy.finalizers wafPolicyFinalizer then reconcileTarget cfg now policy
    else
      match ← updatePolicy { policy with
          finalizers := addFinalizer policy.finalizers wafPolicyFinalizer } with
      | .error err => pure ({}, some (.api err))
      | .ok policy => reconcileTarget cfg now policy

/-! ### Watch mappers -/

/-- `findPoliciesForTarget`, given what `r.List` answers for a namespace; a failed listing enqueues
nothing. -/
def findPoliciesForTarget (list : String → Except ApiError (List WAFPolicy))
    (kind name «namespace» : String) : List ObjectKey :=
  match list «namespace» with
  | .error _ => []
  | .ok items =>
    items.filterMap fun p =>
      if p.spec.targetRef.kind = kind ∧ p.spec.targetRef.name = name then some ⟨p.namespace, p.name⟩
      else none

def findPoliciesForGateway (list : String → Except ApiError (List WAFPolicy)) (obj : Unstructured) :
    List ObjectKey :=
  findPoliciesForTarget list "Gateway" obj.name obj.namespace

def findPoliciesForHTTPRoute (list : String → Except ApiError (List WAFPolicy)) (obj : Unstructured) :
    List ObjectKey :=
  findPoliciesForTarget list "HTTPRoute" obj.name obj.namespace

end Controller

end CorazaOperator
