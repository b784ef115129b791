import CorazaOperator.Api.Types

/-!
# Watch events and their handlers

What controller-runtime does with an informer's notification before a key reaches the work queue:
a predicate may drop the event, and an event handler turns it into requests. An event is the object
before and after one change: a create has no old object, a delete no new one, and an update both.

* `generationChanged` is `predicate.GenerationChangedPredicate`: creates and deletes pass, and an
  update passes only when `metadata.generation` moved, so a change of status or metadata alone is
  dropped.
* `enqueueRequestForObject` is `handler.EnqueueRequestForObject`, the handler of `For`: the key of
  the object itself.
* `enqueueRequestForOwner` is `handler.EnqueueRequestForOwner` with `OnlyControllerOwner`, the
  handler of `Owns`: for the old and the new object, the owner named by its controller reference,
  when that reference is of the owner type's group and kind. The owner type is namespaced, so the
  request is in the object's namespace.
* `enqueueRequestsFromMapFunc` is `handler.EnqueueRequestsFromMapFunc`, the handler of `Watches`:
  the map function's requests for the old and the new object.

Go collects a handler's requests in a map before adding them, so their order is unspecified; the
model adds the old object's first. The work queue ignores an item already waiting, so the order and
repetitions of the requests change nothing but the order of the line.
-/

namespace CorazaOperator.Handler

variable {α : Type}

/-- An informer's notification of one change: the object before and after it. -/
structure WatchEvent (α : Type) where
  old : Option α
  new : Option α

def WatchEvent.objects (ev : WatchEvent α) : List α := ev.old.toList ++ ev.new.toList

@[simp] theorem WatchEvent.mem_objects {ev : WatchEvent α} {a : α} :
    a ∈ ev.objects ↔ ev.old = some a ∨ ev.new = some a := by
  simp [WatchEvent.objects, eq_comm]

/-- `predicate.GenerationChangedPredicate`: creates and deletes pass, an update passes when the
generation moved. -/
def generationChanged (generation : α → Int) (ev : WatchEvent α) : Bool :=
  match ev.old, ev.new with
  | some old, some new => generation new ≠ generation old
  | _, _ => true

/-- `handler.EnqueueRequestForObject`: the key of the new object, or of the old one when there is no
new one. -/
def enqueueRequestForObject (key : α → ObjectKey) (ev : WatchEvent α) : List ObjectKey :=
  match ev.new, ev.old with
  | some new, _ => [key new]
  | none, some old => [key old]
  | none, none => []

/-- `getOwnerReconcileRequest` with `OnlyControllerOwner`, for one object in `namespace` with
owner references `refs`: the controller reference's name in that namespace, when the reference's
API group and kind are `group` and `kind`. A reference whose API version does not parse gives
nothing. -/
def ownerRequest (group kind «namespace» : String) (refs : List OwnerReference) :
    Option ObjectKey :=
  match Metav1.getControllerOf refs with
  | none => none
  | some ref =>
    match parseGroupVersion ref.apiVersion with
    | none => none
    | some gv => if ref.kind = kind ∧ gv.group = group then some ⟨«namespace», ref.name⟩ else none

/-- `handler.EnqueueRequestForOwner` with `OnlyControllerOwner`, for an owner type of API group
`group` and kind `kind`. -/
def enqueueRequestForOwner (group kind : String) (namespaceOf : α → String)
    (ownerReferencesOf : α → List OwnerReference) (ev : WatchEvent α) : List ObjectKey :=
  ev.objects.filterMap fun o => ownerRequest group kind (namespaceOf o) (ownerReferencesOf o)

/-- `handler.EnqueueRequestsFromMapFunc`. -/
def enqueueRequestsFromMapFunc (map : α → List ObjectKey) (ev : WatchEvent α) : List ObjectKey :=
  ev.objects.flatMap map

theorem mem_enqueueRequestForOwner {group kind : String} {namespaceOf : α → String}
    {ownerReferencesOf : α → List OwnerReference} {ev : WatchEvent α} {key : ObjectKey} :
    key ∈ enqueueRequestForOwner group kind namespaceOf ownerReferencesOf ev ↔
      ∃ a ∈ ev.objects, ownerRequest group kind (namespaceOf a) (ownerReferencesOf a) = some key :=
  List.mem_filterMap

theorem mem_enqueueRequestsFromMapFunc {map : α → List ObjectKey} {ev : WatchEvent α}
    {key : ObjectKey} : key ∈ enqueueRequestsFromMapFunc map ev ↔ ∃ a ∈ ev.objects, key ∈ map a :=
  List.mem_flatMap

/-! ### `reconcileHandler` -/

/-- What the controller's `reconcileHandler` does with the key after a pass: add it again after
the rate limiter's delay, or forget its failures. -/
inductive Requeue
  | rateLimited
  | forget
deriving DecidableEq, Repr

/-- `reconcileHandler`: an error, or a result asking for a requeue, adds the key again rate
limited; any other outcome forgets it. The reconciler never sets `RequeueAfter`, and returns no
terminal error, so those branches are left out. -/
def reconcileHandler {ε : Type} (requeue : Bool) (err : Option ε) : Requeue :=
  match err with
  | some _ => .rateLimited
  | none => if requeue then .rateLimited else .forget

end CorazaOperator.Handler
