import Fieldwork.Json.Decode
/-!
The settings: how slot values travel into fetchers. Settings that list a key twice are refused,
and the refusal names the first key found to stand earlier in the list.
-/
namespace Fieldwork

structure Propagation where
  /-- Whether slots without a captured value are reset while a fetcher runs. -/
  clearMissing : Bool := false
  /-- The only keys to capture; all keys when absent. -/
  captureKeys : Option (List String) := none
  deriving DecidableEq, Repr

structure Settings where
  propagation : Propagation := {}
  deriving DecidableEq, Repr

namespace Propagation

def captures (p : Propagation) (key : String) : Bool :=
  match p.captureKeys with
  | none => true
  | some keys => key ∈ keys

def toJson (p : Propagation) : Json.Value :=
  .object
    [("clear_missing", .bool p.clearMissing),
     ("capture_keys", match p.captureKeys with
       | none => .null
       | some keys => .array (keys.map .string))]

def layout : Layout := ⟨"ContextPropagation", [("clear_missing", true), ("capture_keys", true)]⟩

def readField (p : Propagation) (name : String) (v : Json.Value) : Except DecodeError Propagation :=
  match name with
  | "clear_missing" => v.asBool.map fun b => { p with clearMissing := b }
  | _ =>
    (Json.Value.asOption (Json.Value.asList Json.Value.asString) v).map fun keys =>
      { p with captureKeys := keys }

def ofJson : Json.Value.Decoder Propagation := Json.Value.asRecord layout true readField {}

end Propagation

def firstRepeat (seen : List String) : List String → Option String
  | [] => none
  | key :: keys => if key ∈ seen then some key else firstRepeat (key :: seen) keys

namespace Settings

def toJson (s : Settings) : Json.Value :=
  .object [("context_propagation", s.propagation.toJson)]

def layout : Layout := ⟨"Configuration", [("context_propagation", true)]⟩

def readField (s : Settings) (_name : String) (v : Json.Value) : Except DecodeError Settings :=
  (Propagation.ofJson v).map fun p => { s with propagation := p }

def ofJson : Json.Value.Decoder Settings := Json.Value.asRecord layout true readField {}

def repeatedKey (s : Settings) : Option String :=
  s.propagation.captureKeys.bind (firstRepeat [])

end Settings

def duplicateKeyMessage (key : String) : String :=
  "capture key '" ++ key ++ "' is listed more than once"

end Fieldwork
