import Mathlib.Data.List.Sort
import Mathlib.Data.String.Basic
import OpenChoreo.GoMap

/-!
# The workflow schema of a Component

The API service keeps a Component's build configuration in the Component's `WorkflowConfig`: the
name of a workflow template and a schema held as raw JSON bytes. The service writes the schema
with `json.Marshal` of a `map[string]interface{}` and reads it back with `json.Unmarshal` into
one, then looks values up with Go type assertions and prints them with `fmt.Sprintf("%v", ...)`.

The bytes are identified with the JSON value they encode, so encoding a map and decoding it give
the map back. A JSON `null` decodes into a map variable as the nil map, which reads as an empty map
and panics when it is assigned to; other content that is not a JSON object (another JSON kind, or
bytes that are not JSON) fails to decode into a map, as it does in Go.
-/

namespace OpenChoreo
namespace Api

/-! ## Decoded JSON values -/

/-- A value of an `interface{}` decoded from JSON: a string, an object (a `map[string]interface{}`),
`null` (a nil `interface{}`), or any other kind (number, boolean, array), kept as the text that `%v`
prints for it. -/
inductive Json
  | str (s : String)
  | obj (fields : List (String × Json))
  | null
  | other (text : String)

/-- `fmt.Sprintf("%v", value)`: a string prints as itself and an object as
`map[k1:v1 k2:v2]`, with its keys in increasing order. -/
def Json.format : Json → String
  | .str s => s
  | .null => "<nil>"
  | .other text => text
  | .obj fields =>
    let entries := fields.attach.map fun ⟨e, _⟩ => (e.1, e.2.format)
    "map[" ++ " ".intercalate ((entries.mergeSort fun a b => decide (a.1 ≤ b.1)).map
      fun e => e.1 ++ ":" ++ e.2) ++ "]"
decreasing_by
  have := List.sizeOf_lt_of_mem ‹_ ∈ fields›
  simp_wf
  cases e
  simp_all
  omega

@[simp]
theorem Json.format_str (s : String) : (Json.str s).format = s := by
  rw [Json.format]

/-- The type assertion `value.(string)`. -/
def asString : Option Json → Option String
  | some (.str s) => some s
  | _ => none

/-- The type assertion `value.(map[string]interface{})`. -/
def asObject : Option Json → Option (GoMap Json)
  | some (.obj fields) => some fields
  | _ => none

@[simp] theorem asString_str (s : String) : asString (some (.str s)) = some s := rfl

@[simp] theorem asObject_obj (m : GoMap Json) : asObject (some (.obj m)) = some m := rfl

@[simp] theorem asString_none : asString none = none := rfl

/-! ## Raw bytes and the workflow configuration -/

/-- `runtime.RawExtension`: the raw bytes, which may be nil. -/
structure RawExtension where
  raw : Option Json

/-- `WorkflowConfig` of a Component's spec: the workflow template's name and its schema. -/
structure WorkflowConfig where
  name : String
  schema : Option RawExtension

/-- `json.Marshal` of a `map[string]interface{}`. It cannot fail on maps of strings and maps. -/
def jsonMarshal (m : GoMap Json) : Json := .obj m

/-- `json.Unmarshal` into a `map[string]interface{}`: `none` is its error, `some none` the nil map
that `null` leaves, and `some (some m)` a decoded map. -/
def jsonUnmarshalMap : Json → Option (Option (GoMap Json))
  | .obj fields => some (some fields)
  | .null => some none
  | _ => none

@[simp]
theorem jsonUnmarshalMap_jsonMarshal (m : GoMap Json) :
    jsonUnmarshalMap (jsonMarshal m) = some (some m) :=
  rfl

end Api
end OpenChoreo
