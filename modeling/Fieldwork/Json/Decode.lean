import Fieldwork.Json.Value
import Fieldwork.Decode.Error
/-!
Reading JSON values as typed data. A record is given as an object, whose members are read in
their order, or as an array of its fields in the order of its layout.
-/
namespace Fieldwork.Json

def wording : Wording := ⟨"null", (·.write Decimal.json)⟩

namespace Value

/-- A whole number is named as a double where no number was wanted. -/
def found : Value → Found
  | null => .null
  | bool b => .bool b
  | int n => .float (Double.ofInt n)
  | float x => .float x
  | string s => .string s
  | array _ => .sequence
  | object _ => .map

abbrev Decoder (α : Type) := Value → Except DecodeError α

def asString : Decoder String
  | string s => .ok s
  | v => .error (.wrongType v.found "a string")

def asBool : Decoder Bool
  | bool b => .ok b
  | v => .error (.wrongType v.found "a boolean")

def asUnit : Decoder Unit
  | null => .ok ()
  | v => .error (.wrongType v.found "unit")

def asInt (low high : Int) (name : String) : Decoder Int
  | int n => if low ≤ n ∧ n ≤ high then .ok n else .error (.wrongValue (.int n) name)
  | v => .error (.wrongType v.found name)

def asItems : Decoder (List Value)
  | array items => .ok items
  | v => .error (.wrongType v.found "a sequence")

def asMembers : Decoder Object
  | object members => .ok members
  | v => .error (.wrongType v.found "a map")

def asOption (read : Decoder α) : Decoder (Option α)
  | null => .ok none
  | v => (read v).map some

def each (read : Decoder α) : List Value → Except DecodeError (List α)
  | [] => .ok []
  | v :: vs => match read v with
    | .error e => .error e
    | .ok x => (each read vs).map (x :: ·)

def asList (read : Decoder α) : Decoder (List α) := fun v =>
  match v.asItems with
  | .error e => .error e
  | .ok items => each read items

abbrev FieldReader (σ : Type) := σ → String → Value → Except DecodeError σ

/-- Members whose keys are no field are passed over, or refused when `strict`. -/
def readMembers (l : Layout) (strict : Bool) (read : FieldReader σ) :
    σ → List (String × Value) → Except DecodeError σ
  | s, [] => .ok s
  | s, (key, v) :: ms =>
    if key ∈ l.names then
      match read s key v with
      | .error e => .error e
      | .ok s => readMembers l strict read s ms
    else if strict then .error (.unknownField key l.names)
    else readMembers l strict read s ms

def readItems (l : Layout) (read : FieldReader σ) :
    Nat → σ → List (String × Bool) → List Value → Except DecodeError σ
  | _, s, [], [] => .ok s
  | position, _, [], items@(_ :: _) =>
    .error (.wrongLength (position + items.length) "fewer elements in array")
  | position, s, (_, optional) :: fs, [] =>
    if optional then readItems l read (position + 1) s fs []
    else .error (.wrongLength position l.expectedItems)
  | position, s, (name, _) :: fs, v :: vs =>
    match read s name v with
    | .error e => .error e
    | .ok s => readItems l read (position + 1) s fs vs

def asRecord (l : Layout) (strict : Bool) (read : FieldReader σ) (start : σ) : Decoder σ
  | object members => readMembers l strict read start members
  | array items => readItems l read 0 start l.fields items
  | v => .error (.wrongType v.found l.expected)

def required (name : String) : Option α → Except DecodeError α
  | some x => .ok x
  | none => .error (.missingField name)

end Value
end Fieldwork.Json
