import Fieldwork.Json.Decode
/-!
Field coordinates: the name of a type and of one of its fields. They are ordered by the bytes of
the type name and then of the field name, which for Unicode is the order of the code points.
-/
namespace Fieldwork.Schema

structure Coordinates where
  type : String
  field : String
  deriving DecidableEq, Repr

namespace Coordinates

def display (c : Coordinates) : String := c.type ++ "." ++ c.field

def toJson (c : Coordinates) : Json.Value :=
  .object [("type_name", .string c.type), ("field_name", .string c.field)]

def describe (c : Coordinates) : String :=
  Text.record "FieldCoordinates"
    [("type_name", Text.quoted c.type), ("field_name", Text.quoted c.field)]

def layout : Layout := ⟨"FieldCoordinates", [("type_name", false), ("field_name", false)]⟩

structure Draft where
  type : Option String := none
  field : Option String := none

def Draft.read (d : Draft) (name : String) (v : Json.Value) : Except DecodeError Draft :=
  match name with
  | "type_name" => v.asString.map fun s => { d with type := some s }
  | _ => v.asString.map fun s => { d with field := some s }

def ofJson : Json.Value.Decoder Coordinates := fun v => do
  let d ← Json.Value.asRecord layout false Draft.read {} v
  let type ← Json.Value.required "type_name" d.type
  let field ← Json.Value.required "field_name" d.field
  pure ⟨type, field⟩

def before (a b : Coordinates) : Bool :=
  a.type < b.type || (a.type = b.type && (a.field < b.field || a.field = b.field))

def dropRepeats : List Coordinates → List Coordinates
  | a :: b :: cs => if a = b then dropRepeats (b :: cs) else a :: dropRepeats (b :: cs)
  | cs => cs

def sorted (cs : List Coordinates) : List Coordinates := dropRepeats (cs.mergeSort before)

end Coordinates
end Fieldwork.Schema
