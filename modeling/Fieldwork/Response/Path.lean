import Fieldwork.Json.Decode
/-!
Where a field stands in the response: the keys and list indices from the root down to it.
-/
namespace Fieldwork.Response

/-- A key made of digits and an index look alike when displayed and differ in JSON. -/
inductive PathElement
  | index (n : UInt64)
  | key (s : String)
  deriving DecidableEq, Repr

namespace PathElement

def display : PathElement → String
  | index n => toString n.toNat
  | key s => s

def describe : PathElement → String
  | index n => Text.applied "Index" (toString n.toNat)
  | key s => Text.applied "Key" (Text.quoted s)

def toJson : PathElement → Json.Value
  | index n => .int n.toNat
  | key s => .string s

def ofJson : Json.Value.Decoder PathElement
  | .string s => .ok (key s)
  | .int n =>
    if 0 ≤ n ∧ n < 0x10000000000000000 then .ok (index (UInt64.ofNat n.toNat))
    else .error (.noVariant "PathElement")
  | _ => .error (.noVariant "PathElement")

end PathElement

structure Path where
  elements : List PathElement
  deriving DecidableEq, Repr

namespace Path

def empty : Path := ⟨[]⟩

def isEmpty (p : Path) : Bool := p.elements.isEmpty

def length (p : Path) : Nat := p.elements.length

def last? (p : Path) : Option PathElement := p.elements.getLast?

def join (p : Path) (e : PathElement) : Path := ⟨p.elements ++ [e]⟩

def ofKeys (keys : List String) : Path := ⟨keys.map .key⟩

def display (p : Path) : String := String.join (p.elements.map fun e => "/" ++ e.display)

def describe (p : Path) : String :=
  Text.applied "Path" (Text.bracketed (p.elements.map PathElement.describe))

def toJson (p : Path) : Json.Value := .array (p.elements.map PathElement.toJson)

def ofJson : Json.Value.Decoder Path := fun v =>
  (Json.Value.asList PathElement.ofJson v).map Path.mk

end Path
end Fieldwork.Response
