import Mathlib.Data.List.Basic

/-!
# Owner references and finalizers

The parts of `controllerutil` and `metav1` the reconciler reaches through: `SetControllerReference`
with the owner-reference matching it is built on (`referSameObject` compares API group, kind and
name, and ignores version and UID), and the three finalizer helpers. `CreateOrUpdate`, the one
helper that talks to the API server, is with the client model.

Two facts about the owner references are proved here: `upsertOwnerRef` leaves the reference it is
given in the list, and applying it to its own output gives the same list back, so a second
`SetControllerReference` by the same owner changes nothing.
-/

namespace CorazaOperator

/-- `schema.GroupVersion`. -/
structure GroupVersion where
  group : String
  version : String
deriving DecidableEq, Repr

/-- `metav1.OwnerReference`; `*bool` fields are options. -/
structure OwnerReference where
  apiVersion : String
  kind : String
  name : String
  uid : String
  controller : Option Bool
  blockOwnerDeletion : Option Bool
deriving DecidableEq, Repr

/-- `schema.ParseGroupVersion`: `""` and `"/"` are the empty group-version, a string without a
slash is a version of the core group, one slash separates group and version, more fail. -/
def parseGroupVersion (gv : String) : Option GroupVersion :=
  if gv = "" ∨ gv = "/" then some ⟨"", ""⟩ else
  match gv.toList.span (· ≠ '/') with
  | (v, []) => some ⟨"", String.mk v⟩
  | (g, _ :: rest) => if '/' ∈ rest then none else some ⟨String.mk g, String.mk rest⟩

namespace Metav1

/-- `metav1.GetControllerOf`: the first reference marked as controller. -/
def getControllerOf (refs : List OwnerReference) : Option OwnerReference :=
  refs.find? (fun r => r.controller = some true)

end Metav1

namespace Controllerutil

/-- `referSameObject`: same API group, kind and name; an unparsable API version matches nothing. -/
def referSameObject (a b : OwnerReference) : Bool :=
  match parseGroupVersion a.apiVersion, parseGroupVersion b.apiVersion with
  | some ga, some gb => ga.group = gb.group ∧ a.kind = b.kind ∧ a.name = b.name
  | _, _ => false

/-- `upsertOwnerRef`: replace the first reference to the same object, or append. -/
def upsertOwnerRef (ref : OwnerReference) : List OwnerReference → List OwnerReference
  | [] => [ref]
  | r :: rs => if referSameObject r ref then ref :: rs else r :: upsertOwnerRef ref rs

/-- The owner `SetControllerReference` is given: its object metadata and the API version and kind
the scheme registers for its type. -/
structure Owner where
  apiVersion : String
  kind : String
  «namespace» : String
  name : String
  uid : String
deriving DecidableEq, Repr

/-- The reference `SetControllerReference` builds for an owner. -/
def Owner.controllerRef (owner : Owner) : OwnerReference where
  apiVersion := owner.apiVersion
  kind := owner.kind
  name := owner.name
  uid := owner.uid
  blockOwnerDeletion := some true
  controller := some true

/-- The errors `SetControllerReference` returns. -/
inductive SetControllerReferenceError
  | clusterScopedWithNamespacedOwner (ownerNamespace : String)
  | crossNamespace (ownerNamespace objectNamespace : String)
  | alreadyOwned (objectNamespace objectName : String) (owner : OwnerReference)
deriving DecidableEq, Repr

/-- The error strings, as `%v` prints them. -/
def SetControllerReferenceError.message : SetControllerReferenceError → String
  | .clusterScopedWithNamespacedOwner ns =>
    "cluster-scoped resource must not have a namespace-scoped owner, owner\x27s namespace " ++ ns
  | .crossNamespace ns objNs =>
    "cross-namespace owner references are disallowed, owner\x27s namespace " ++ ns ++
      ", obj\x27s namespace " ++ objNs
  | .alreadyOwned ns name owner =>
    "Object " ++ ns ++ "/" ++ name ++ " is already owned by another " ++ owner.kind ++
      " controller " ++ owner.name

/-- `validateOwner`: a namespaced owner may only own objects of its own namespace. -/
def validateOwner (ownerNamespace objectNamespace : String) :
    Except SetControllerReferenceError Unit :=
  if ownerNamespace = "" then .ok ()
  else if objectNamespace = "" then .error (.clusterScopedWithNamespacedOwner ownerNamespace)
  else if ownerNamespace ≠ objectNamespace then .error (.crossNamespace ownerNamespace objectNamespace)
  else .ok ()

/-- `controllerutil.SetControllerReference` on an object with the given namespace, name and owner
references: the new owner references, or why the object cannot be controlled by the owner. -/
def setControllerReference (owner : Owner) (objectNamespace objectName : String)
    (refs : List OwnerReference) : Except SetControllerReferenceError (List OwnerReference) :=
  match validateOwner owner.namespace objectNamespace with
  | .error e => .error e
  | .ok () =>
    match Metav1.getControllerOf refs with
    | some existing =>
      if referSameObject existing owner.controllerRef then .ok (upsertOwnerRef owner.controllerRef refs)
      else .error (.alreadyOwned objectNamespace objectName existing)
    | none => .ok (upsertOwnerRef owner.controllerRef refs)

/-- `controllerutil.ContainsFinalizer`. -/
def containsFinalizer (finalizers : List String) (finalizer : String) : Bool :=
  finalizer ∈ finalizers

/-- `controllerutil.AddFinalizer`: append when absent. -/
def addFinalizer (finalizers : List String) (finalizer : String) : List String :=
  if finalizer ∈ finalizers then finalizers else finalizers ++ [finalizer]

/-- `controllerutil.RemoveFinalizer`: drop every occurrence. -/
def removeFinalizer (finalizers : List String) (finalizer : String) : List String :=
  finalizers.filter (· ≠ finalizer)

/-- `controllerutil.OperationResult`; the constructors print as the Go constants' values. -/
inductive OperationResult
  | operationResultNone
  | operationResultCreated
  | operationResultUpdated
deriving DecidableEq, Repr

def OperationResult.toString : OperationResult → String
  | .operationResultNone => "unchanged"
  | .operationResultCreated => "created"
  | .operationResultUpdated => "updated"

/-! ### Finalizers -/

@[simp] theorem mem_addFinalizer (finalizers : List String) (finalizer f : String) :
    f ∈ addFinalizer finalizers finalizer ↔ f ∈ finalizers ∨ f = finalizer := by
  unfold addFinalizer
  split_ifs with h
  · constructor
    · exact Or.inl
    · rintro (h' | rfl) <;> assumption
  · simp

@[simp] theorem mem_removeFinalizer (finalizers : List String) (finalizer f : String) :
    f ∈ removeFinalizer finalizers finalizer ↔ f ∈ finalizers ∧ f ≠ finalizer := by
  simp [removeFinalizer]

/-! ### The controller reference -/

theorem self_mem_upsertOwnerRef (ref : OwnerReference) (refs : List OwnerReference) :
    ref ∈ upsertOwnerRef ref refs := by
  induction refs with
  | nil => simp [upsertOwnerRef]
  | cons r rs ih =>
    unfold upsertOwnerRef
    split_ifs
    · exact List.mem_cons_self _ _
    · exact List.mem_cons_of_mem _ ih

theorem upsertOwnerRef_idem {ref : OwnerReference} (hself : referSameObject ref ref = true)
    (refs : List OwnerReference) :
    upsertOwnerRef ref (upsertOwnerRef ref refs) = upsertOwnerRef ref refs := by
  induction refs with
  | nil => simp [upsertOwnerRef, hself]
  | cons r rs ih =>
    by_cases hr : referSameObject r ref = true
    · simp [upsertOwnerRef, hr, hself]
    · simp [upsertOwnerRef, hr, ih]

theorem getControllerOf_upsertOwnerRef {ref c : OwnerReference} (hctrl : ref.controller = some true)
    (refs : List OwnerReference) (h : Metav1.getControllerOf (upsertOwnerRef ref refs) = some c) :
    Metav1.getControllerOf refs = some c ∨ c = ref := by
  induction refs with
  | nil => simp_all [upsertOwnerRef, Metav1.getControllerOf]
  | cons r rs ih =>
    unfold upsertOwnerRef at h
    split_ifs at h
    · simp_all [Metav1.getControllerOf]
    · unfold Metav1.getControllerOf at h ih ⊢
      by_cases hr : r.controller = some true
      · simp_all
      · simp only [List.find?_cons, hr, decide_False] at h ⊢
        exact ih h

theorem Owner.referSameObject_controllerRef (owner : Owner)
    (h : (parseGroupVersion owner.apiVersion).isSome) :
    referSameObject owner.controllerRef owner.controllerRef = true := by
  obtain ⟨gv, hgv⟩ := Option.isSome_iff_exists.mp h
  simp [referSameObject, Owner.controllerRef, hgv]

end Controllerutil

end CorazaOperator
