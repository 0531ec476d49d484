import Fieldwork.Settings.Basic
import Fieldwork.Markup.Decode
/-!
Settings as text: one marked-up document. Text is refused when its notation is wrong, when it holds
no document or more than one, when the document has another shape, and when a key is repeated.
-/
namespace Fieldwork

inductive SettingsError
  | badNotation
  | noDocument
  | misread (e : Markup.Misread)
  | manyDocuments
  | duplicateKey (key : String)

def SettingsError.message : SettingsError → String
  | .badNotation => "could not read configuration: syntax error"
  | .noDocument => "could not read configuration: EOF while parsing a value"
  | .misread e => "could not read configuration: " ++ e.message
  | .manyDocuments =>
    "could not read configuration: deserializing from YAML containing more than one document is not supported"
  | .duplicateKey key => duplicateKeyMessage key

namespace Propagation

def readNode : Markup.Node.FieldReader Propagation := fun s name anchors p n =>
  match name with
  | "clear_missing" => (Markup.Node.asBool anchors p n).map fun b => { s with clearMissing := b }
  | _ =>
    (Markup.Node.asOption (Markup.Node.asList (Markup.Node.asString "a string")) anchors p n).map
      fun keys => { s with captureKeys := keys }

def ofNode : Markup.Node.Decoder Propagation := Markup.Node.asRecord layout readNode {}

end Propagation

namespace Settings

def readNode : Markup.Node.FieldReader Settings := fun s _ anchors p n =>
  (Propagation.ofNode anchors p n).map fun x => { s with propagation := x }

def ofDocument (d : Markup.Document) : Except Markup.Misread Settings :=
  Markup.Node.asRecord layout readNode {} d.anchors .root d.root

def validate (s : Settings) : Except SettingsError Settings :=
  match s.repeatedKey with
  | some key => .error (.duplicateKey key)
  | none => .ok s

def read (text : String) : Except SettingsError Settings :=
  match Markup.Document.allOfText? text with
  | none => .error .badNotation
  | some [] => .error .noDocument
  | some (d :: ds) => match ofDocument d with
    | .error e => .error (.misread e)
    | .ok s => if ds.isEmpty then .ok s else .error .manyDocuments

def ofText (text : String) : Except SettingsError Settings := (read text).bind validate

def parse (s : String) : Except SettingsError Settings := ofText s

end Settings
end Fieldwork
