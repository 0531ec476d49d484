import Fieldwork.Response.Path
/-!
Errors as the response lists them. In JSON an error leaves out what it does not have.
-/
namespace Fieldwork.Response

structure Location where
  line : UInt32
  column : UInt32
  deriving DecidableEq, Repr

structure Error where
  message : String
  locations : List Location := []
  path : Option Path := none
  extensions : Json.Object := []
  deriving DecidableEq

def executionAborted : String := "EXECUTION_ABORTED"

def internalError : String := "INTERNAL_ERROR"

namespace Location

def toJson (l : Location) : Json.Value :=
  .object [("line", .int l.line.toNat), ("column", .int l.column.toNat)]

def layout : Layout := ⟨"Location", [("line", false), ("column", false)]⟩

structure Draft where
  line : Option UInt32 := none
  column : Option UInt32 := none

def asNat32 : Json.Value.Decoder UInt32 := fun v =>
  (Json.Value.asInt 0 0xFFFFFFFF "u32" v).map fun n => UInt32.ofNat n.toNat

def Draft.read (d : Draft) (name : String) (v : Json.Value) : Except DecodeError Draft :=
  match name with
  | "line" => (asNat32 v).map fun n => { d with line := some n }
  | _ => (asNat32 v).map fun n => { d with column := some n }

def ofJson : Json.Value.Decoder Location := fun v => do
  let d ← Json.Value.asRecord layout false Draft.read {} v
  let line ← Json.Value.required "line" d.line
  let column ← Json.Value.required "column" d.column
  pure ⟨line, column⟩

def describe (l : Location) : String :=
  Text.record "Location" [("line", toString l.line.toNat), ("column", toString l.column.toNat)]

end Location

namespace Error

def empty : Error := { message := "" }

def code? (e : Error) : Option String := (Dict.get? e.extensions "code").bind Json.Value.string?

inductive Part
  | location (l : Location)
  | locations (ls : List Location)
  | extension (key : String) (v : Json.Value)
  | extensions (entries : Json.Object)

/-- The code is entered last and never replaces an entry. -/
def withCode (extensions : Json.Object) : Option String → Json.Object
  | none => extensions
  | some c => if Dict.contains extensions "code" then extensions
    else Dict.insert extensions "code" (.string c)

structure Builder where
  locations : List Location := []
  extensions : Json.Object := []

def Builder.call (b : Builder) : Part → Builder
  | .location l => { b with locations := b.locations ++ [l] }
  | .locations ls => { b with locations := b.locations ++ ls }
  | .extension key v => { b with extensions := Dict.insert b.extensions key v }
  | .extensions entries => { b with extensions := Dict.insertAll b.extensions entries }

def Builder.finish (b : Builder) (message : String) (path : Option Path) (code : Option String) :
    Error where
  message := message
  locations := b.locations
  path := path
  extensions := withCode b.extensions code

def build (message : String) (parts : List Part) (path : Option Path) (code : Option String) :
    Error :=
  (parts.foldl Builder.call {}).finish message path code

def ofCode (message code : String) : Error := build message [] none (some code)

def cancelledByClient : Error :=
  ofCode "GraphQL request has been cancelled by the client." executionAborted

def unresolvedSubscription : Error := ofCode "Unresolved subscription error" internalError

def members (e : Error) : Json.Object :=
  [("message", .string e.message)] ++
  (if e.locations.isEmpty then [] else [("locations", .array (e.locations.map Location.toJson))]) ++
  (match e.path with
    | none => []
    | some p => [("path", p.toJson)]) ++
  (if e.extensions.isEmpty then [] else [("extensions", .object e.extensions)])

def toJson (e : Error) : Json.Value := .object e.members

def layout : Layout :=
  ⟨"Error", [("message", false), ("locations", true), ("path", false), ("extensions", true)]⟩

structure Draft where
  message : Option String := none
  locations : List Location := []
  path : Option Path := none
  extensions : Json.Object := []

def Draft.read (d : Draft) (name : String) (v : Json.Value) : Except DecodeError Draft :=
  match name with
  | "message" => v.asString.map fun s => { d with message := some s }
  | "locations" => (Json.Value.asList Location.ofJson v).map fun ls => { d with locations := ls }
  | "path" => (Json.Value.asOption Path.ofJson v).map fun p => { d with path := p }
  | _ => v.asMembers.map fun m => { d with extensions := m }

def ofJson : Json.Value.Decoder Error := fun v => do
  let d ← Json.Value.asRecord layout false Draft.read {} v
  let message ← Json.Value.required "message" d.message
  pure { message, locations := d.locations, path := d.path, extensions := d.extensions }

def describe (e : Error) : String :=
  Text.record "Error"
    [("message", Text.quoted e.message),
     ("locations", Text.bracketed (e.locations.map Location.describe)),
     ("path", match e.path with
       | none => "None"
       | some p => Text.applied "Some" p.describe),
     ("extensions", Text.braced (Json.Value.describeMembers e.extensions))]

end Error
end Fieldwork.Response
