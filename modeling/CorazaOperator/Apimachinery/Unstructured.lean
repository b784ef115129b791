import Mathlib.Data.List.Basic

/-!
# Unstructured documents

The controller reads Gateway and HTTPRoute objects as `unstructured.Unstructured`, a JSON document,
and reaches into a route with `unstructured.NestedSlice` and `unstructured.NestedString`. This module
is those accessors over a JSON value type, with the three outcomes Go reports as a `(value, found,
err)` triple: an accessor error, not found, or the value.

Numbers keep only what decides a document's shape; the accessor error messages keep the field path
and drop the rendering of the offending value, which no caller reads.
-/

namespace CorazaOperator

/-- A JSON value as `encoding/json` decodes it into `interface{}`. -/
inductive Json where
  | null
  | bool (b : Bool)
  | number (n : Int)
  | string (s : String)
  | array (items : List Json)
  | object (fields : List (String × Json))
deriving Repr

namespace Unstructured

/-- `jsonPath`: the dotted path the accessor errors print. -/
def jsonPath (fields : List String) : String :=
  "." ++ ".".intercalate fields

/-- The walk of `NestedFieldNoCopy` from a value through the remaining fields. A `null` on the way
is not found; a non-object on the way is an accessor error. -/
def nestedFieldFrom (path : List String) : Json → List String → Except String (Option Json)
  | v, [] => .ok (some v)
  | .null, _ :: _ => .ok none
  | .object m, f :: fs =>
    match m.lookup f with
    | none => .ok none
    | some v => nestedFieldFrom path v fs
  | _, _ :: _ => .error (jsonPath path ++ " accessor error: expected map[string]interface\x7b\x7d")

/-- `unstructured.NestedFieldNoCopy`. -/
def nestedFieldNoCopy (obj : List (String × Json)) (fields : List String) :
    Except String (Option Json) :=
  nestedFieldFrom fields (.object obj) fields

/-- `unstructured.NestedSlice`. -/
def nestedSlice (obj : List (String × Json)) (fields : List String) :
    Except String (Option (List Json)) :=
  match nestedFieldNoCopy obj fields with
  | .error e => .error e
  | .ok none => .ok none
  | .ok (some (.array items)) => .ok (some items)
  | .ok (some _) => .error (jsonPath fields ++ " accessor error: expected []interface\x7b\x7d")

/-- `unstructured.NestedString`. -/
def nestedString (obj : List (String × Json)) (fields : List String) :
    Except String (Option String) :=
  match nestedFieldNoCopy obj fields with
  | .error e => .error e
  | .ok none => .ok none
  | .ok (some (.string s)) => .ok (some s)
  | .ok (some _) => .error (jsonPath fields ++ " accessor error: expected string")

/-- The string `s, _, _ := NestedString(...)` binds: the value, or `""` when the field is absent,
not a string, or the walk failed. -/
def nestedStringOrEmpty (obj : List (String × Json)) (fields : List String) : String :=
  match nestedString obj fields with
  | .ok (some s) => s
  | _ => ""

theorem nestedFieldNoCopy_single (obj : List (String × Json)) (field : String) :
    nestedFieldNoCopy obj [field] = .ok (obj.lookup field) := by
  unfold nestedFieldNoCopy
  simp only [nestedFieldFrom]
  cases obj.lookup field <;> rfl

theorem nestedStringOrEmpty_single (obj : List (String × Json)) (field : String) :
    nestedStringOrEmpty obj [field] =
      match obj.lookup field with
      | some (.string s) => s
      | _ => "" := by
  unfold nestedStringOrEmpty nestedString
  rw [nestedFieldNoCopy_single]
  rcases obj.lookup field with _ | (_ | _ | _ | _ | _ | _) <;> rfl

end Unstructured

end CorazaOperator
