import Fieldwork.Decimal.Double
import Fieldwork.Text.Quoted
/-!
Why a value could not be read as what was wanted, and the wording of it.
-/
namespace Fieldwork

inductive Found
  | null
  | bool (b : Bool)
  | int (n : Int)
  | wideInt (n : Int)
  | float (x : Double)
  | string (s : String)
  | sequence
  | map
  | unknown
  deriving DecidableEq, Repr

inductive DecodeError
  | wrongType (found : Found) (expected : String)
  | wrongValue (found : Found) (expected : String)
  | wrongLength (length : Nat) (expected : String)
  | missingField (name : String)
  | unknownField (name : String) (known : List String)
  | duplicateField (name : String)
  | noVariant (type : String)
  deriving DecidableEq, Repr

structure Wording where
  null : String
  float : Double → String

def Found.text (w : Wording) : Found → String
  | .null => w.null
  | .bool b => "boolean `" ++ toString b ++ "`"
  | .int n => "integer `" ++ toString n ++ "`"
  | .wideInt n => "integer `" ++ toString n ++ (if n < 0 then "` as i128" else "` as u128")
  | .float x => "floating point `" ++ w.float x ++ "`"
  | .string s => "string " ++ Text.quoted s
  | .sequence => "sequence"
  | .map => "map"
  | .unknown => "unknown"

def ticked (s : String) : String := "`" ++ s ++ "`"

def alternatives : List String → String
  | [] => "there are no fields"
  | [a] => "expected " ++ ticked a
  | [a, b] => "expected " ++ ticked a ++ " or " ++ ticked b
  | names => "expected one of " ++ Text.separated ", " (names.map ticked)

def DecodeError.message (w : Wording) : DecodeError → String
  | .wrongType found expected => "invalid type: " ++ found.text w ++ ", expected " ++ expected
  | .wrongValue found expected => "invalid value: " ++ found.text w ++ ", expected " ++ expected
  | .wrongLength n expected => "invalid length " ++ toString n ++ ", expected " ++ expected
  | .missingField name => "missing field " ++ ticked name
  | .unknownField name known => "unknown field " ++ ticked name ++ ", " ++ alternatives known
  | .duplicateField name => "duplicate field " ++ ticked name
  | .noVariant type => "data did not match any variant of untagged enum " ++ type

/-- A record as readers know it: its name, its fields in order, and whether each may be left out
at the end of the positional form. -/
structure Layout where
  name : String
  fields : List (String × Bool)

namespace Layout

def expected (l : Layout) : String := "struct " ++ l.name

def names (l : Layout) : List String := l.fields.map (·.1)

def expectedItems (l : Layout) : String :=
  l.expected ++ " with " ++ toString l.fields.length ++
    if l.fields.length = 1 then " element" else " elements"

end Layout
end Fieldwork
