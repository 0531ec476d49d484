import Fieldwork.Markup.Resolve
/-!
Reading nodes as typed data. An error is placed at the innermost node that was being read when it
arose, with the path to it.
-/
namespace Fieldwork.Markup

inductive Place
  | root
  | item (parent : Place) (index : Nat)
  | member (parent : Place) (key : String)
  | unnamed (parent : Place)

namespace Place

def display : Place → String
  | root => "."
  | item parent index => parent.display ++ "[" ++ toString index ++ "]"
  | member root key => key
  | member parent key => parent.display ++ "." ++ key
  | unnamed root => "?"
  | unnamed parent => parent.display ++ ".?"

def isRoot : Place → Bool
  | root => true
  | _ => false

end Place

structure Misread where
  error : DecodeError
  site : Option (Place × Mark) := none

def Misread.placeAt (p : Place) (m : Mark) (e : Misread) : Misread :=
  match e.site with
  | some _ => e
  | none => { e with site := some (p, m) }

def floatStyle : Decimal.Style := ⟨.away, -400, 400, true⟩

def floatText (x : Double) : String :=
  if x.finite then x.write floatStyle
  else if x.fractionField ≠ 0 then "NaN" else if x.negative then "-inf" else "inf"

def wording : Wording := ⟨"unit value", floatText⟩

def Misread.message (e : Misread) : String :=
  match e.site with
  | none => e.error.message wording
  | some (p, m) =>
    (if p.isRoot then "" else p.display ++ ": ") ++ e.error.message wording ++
      " at line " ++ toString m.line ++ " column " ++ toString (m.column + 1)

namespace Node

def resolve (anchors : Anchors) : Node → Node
  | starred n => (Dict.get? anchors n).getD (starred n)
  | node => node

def mark : Node → Mark
  | scalar m .. | sequence m _ | mapping m _ => m
  | starred _ => default

def found : Node → Except DecodeError Found
  | scalar _ text style tag => scalarFound text style tag
  | sequence .. => .ok .sequence
  | mapping .. => .ok .map
  | starred _ => .ok .unknown

def unexpected (n : Node) (expected : String) : DecodeError :=
  match n.found with
  | .ok f => .wrongType f expected
  | .error e => e

abbrev Decoder (α : Type) := Anchors → Place → Node → Except Misread α

def placed (p : Place) (n : Node) (r : Except DecodeError α) : Except Misread α :=
  r.mapError fun e => ⟨e, some (p, n.mark)⟩

def asBool : Decoder Bool := fun anchors p n =>
  let n := n.resolve anchors
  placed p n <| match n.found with
    | .ok (.bool b) => .ok b
    | .ok f => .error (.wrongType f "a boolean")
    | .error e => .error e

/-- Every scalar is a string, whatever else it stands for. -/
def asString (expected : String) : Decoder String := fun anchors p n =>
  let n := n.resolve anchors
  placed p n <| match n with
    | scalar _ text _ _ => .ok text
    | n => .error (n.unexpected expected)

def isNone : Node → Except DecodeError Bool
  | scalar _ text .plain none => .ok (text = "~" || text = "null")
  | scalar _ text .plain (some t) =>
    if t.handle = "!!" && t.suffix = "null" then
      if text = "~" || text = "null" then .ok true else .error (.wrongValue (.string text) "null")
    else .ok false
  | _ => .ok false

def asOption (read : Decoder α) : Decoder (Option α) := fun anchors p n =>
  match (n.resolve anchors).isNone with
  | .error e => .error ⟨e, none⟩
  | .ok true => .ok none
  | .ok false => (read anchors p n).map some

def eachFrom (read : Decoder α) (anchors : Anchors) (p : Place) :
    Nat → List Node → Except Misread (List α)
  | _, [] => .ok []
  | i, n :: ns => match read anchors (.item p i) n with
    | .error e => .error e
    | .ok x => (eachFrom read anchors p (i + 1) ns).map (x :: ·)

def asList (read : Decoder α) : Decoder (List α) := fun anchors p n =>
  let n := n.resolve anchors
  match n with
  | sequence m items => (eachFrom read anchors p 0 items).mapError (·.placeAt p m)
  | n => placed p n (.error (n.unexpected "a sequence"))

abbrev FieldReader (σ : Type) := σ → String → Decoder σ

def valuePlace (p : Place) (key : Node) (name : String) : Place :=
  match key with
  | scalar .. => .member p name
  | _ => .unnamed p

def readEntries (l : Layout) (read : FieldReader σ) (anchors : Anchors) (p : Place) :
    List String → σ → List (Node × Node) → Except Misread σ
  | _, s, [] => .ok s
  | seen, s, (key, value) :: entries =>
    match asString "field identifier" anchors p key with
    | .error e => .error e
    | .ok name =>
      if name ∉ l.names then
        placed p (key.resolve anchors) (.error (.unknownField name l.names))
      else if name ∈ seen then .error ⟨.duplicateField name, none⟩
      else match read s name anchors (valuePlace p key name) value with
        | .error e => .error e
        | .ok s => readEntries l read anchors p (name :: seen) s entries

def readPositions (read : FieldReader σ) (anchors : Anchors) (p : Place) (total : Nat) :
    Nat → σ → List String → List Node → Except Misread σ
  | _, s, _, [] => .ok s
  | i, _, [], _ :: _ =>
    .error ⟨.wrongLength total
      ("sequence of " ++ toString i ++ if i = 1 then " element" else " elements"), none⟩
  | i, s, name :: names, n :: ns => match read s name anchors (.item p i) n with
    | .error e => .error e
    | .ok s => readPositions read anchors p total (i + 1) s names ns

def asRecord (l : Layout) (read : FieldReader σ) (start : σ) : Decoder σ := fun anchors p n =>
  let n := n.resolve anchors
  match n with
  | mapping m entries => (readEntries l read anchors p [] start entries).mapError (·.placeAt p m)
  | sequence m items =>
    (readPositions read anchors p items.length 0 start l.names items).mapError (·.placeAt p m)
  | n => placed p n (.error (n.unexpected l.expected))

end Node
end Fieldwork.Markup
