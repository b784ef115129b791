import CorazaOperator.Client.Prog

/-!
# Controller utilities

`internal/controller/utils.go`: the status-condition helpers and the unstructured `createOrUpdate`.
The helpers' logger, request and kind arguments feed only the debug log and are left out; the time
`metav1.Now()` stamps is the argument `now`.
-/

namespace CorazaOperator

namespace Controller

/-- The one helper `setConditionTrue` and `setConditionFalse` are instances of. -/
def setCondition (status : ConditionStatus) (conditions : List Condition) (generation : Int)
    (conditionType reason message : String) (now : Time) : List Condition :=
  Apimeta.setStatusCondition conditions
    { type := conditionType, status, observedGeneration := generation, lastTransitionTime := now,
      reason, message }

def setConditionTrue (conditions : List Condition) (generation : Int)
    (conditionType reason message : String) (now : Time) : List Condition :=
  setCondition .conditionTrue conditions generation conditionType reason message now

def setConditionFalse (conditions : List Condition) (generation : Int)
    (conditionType reason message : String) (now : Time) : List Condition :=
  setCondition .conditionFalse conditions generation conditionType reason message now

def setStatusConditionDegraded (conditions : List Condition) (generation : Int)
    (reason message : String) (now : Time) : List Condition :=
  let conditions := setConditionFalse conditions generation "Ready" reason message now
  let conditions := setConditionTrue conditions generation "Degraded" reason message now
  Apimeta.removeStatusCondition conditions "Progressing"

def setStatusProgressing (conditions : List Condition) (generation : Int)
    (reason message : String) (now : Time) : List Condition :=
  let conditions := setConditionFalse conditions generation "Ready" reason message now
  setConditionTrue conditions generation "Progressing" reason message now

def setStatusReady (conditions : List Condition) (generation : Int)
    (reason message : String) (now : Time) : List Condition :=
  let conditions := setConditionTrue conditions generation "Ready" reason message now
  let conditions := Apimeta.removeStatusCondition conditions "Degraded"
  Apimeta.removeStatusCondition conditions "Progressing"

/-! ### Calls through the client -/

/-- `c.Get` of an unstructured object. -/
def get (gvk : GroupVersionKind) (key : ObjectKey) : Prog (Except ApiError Unstructured) :=
  .call (.get gvk key) .ret

/-- `c.Create` of an unstructured object. -/
def create (obj : Unstructured) : Prog (Except ApiError Unit) :=
  .call (.create obj) .ret

/-- `c.Update` of an unstructured object. -/
def update (obj : Unstructured) : Prog (Except ApiError Unit) :=
  .call (.update obj) .ret

/-- `corev1.NamespaceDefault`. -/
def NamespaceDefault : String := "default"

/-- `createOrUpdate`: the error it returns, as its message, or `none` for `nil`. The lookup is made
under the defaulted namespace; `Create` and `Update` are sent `desired` as it is. -/
def createOrUpdate (desired : Unstructured) : Prog (Option String) :=
  let gvk := desired.gvk
  if gvk.Empty then pure (some "desired object must have GroupVersionKind set") else
  let name := desired.name
  if name = "" then pure (some "desired object must have a name set") else
  let «namespace» := if desired.namespace = "" then NamespaceDefault else desired.namespace
  let failed (op : String) (err : ApiError) : String :=
    "failed to " ++ op ++ " " ++ gvk.kind ++ "/" ++ name ++ " in namespace " ++ «namespace» ++ ": " ++
      err.message
  do
    match ← get gvk ⟨«namespace», desired.name⟩ with
    | .error err =>
      if err.IsNotFound then
        match ← create desired with
        | .error err => pure (some (failed "create" err))
        | .ok () => pure none
      else pure (some (failed "get" err))
    | .ok resource =>
      match ← update { desired with resourceVersion := resource.resourceVersion } with
      | .error err => pure (some (failed "update" err))
      | .ok () => pure none

end Controller

end CorazaOperator
