import Fieldwork.Markup.Scan
import Fieldwork.Dict
/-!
The nodes of a marked-up text. An alias is kept as the number of its anchor, and a document is its
root with the anchored nodes.
-/
namespace Fieldwork.Markup

inductive Node
  | scalar (mark : Mark) (text : String) (style : ScalarStyle) (tag : Option Tag)
  | sequence (mark : Mark) (items : List Node)
  | mapping (mark : Mark) (entries : List (Node × Node))
  | starred (anchor : Nat)
  deriving Inhabited

def Node.absent (m : Mark) : Node := .scalar m "~" .plain none

abbrev Anchors := List (Nat × Node)

structure Document where
  root : Node
  anchors : Anchors

namespace Node

structure Ahead where
  tokens : List Token
  names : Dict String Nat := []
  count : Nat := 1
  anchored : Anchors := []

abbrev Reader := StateT Ahead Option

def peek : Reader Token := fun a => a.tokens.head?.map fun t => (t, a)

def skip : Reader Unit := fun a => some ((), { a with tokens := a.tokens.tail })

def nameAnchor (name : String) : Reader Nat := fun a =>
  some (a.count, { a with names := Dict.insert a.names name a.count, count := a.count + 1 })

def anchorNamed (name : String) : Reader Nat := fun a =>
  (Dict.get? a.names name).map fun n => (n, a)

def keep (anchor : Option Nat) (node : Node) : Reader Node := fun a =>
  match anchor with
  | none => some (node, a)
  | some n => some (node, { a with anchored := (n, node) :: a.anchored })

/-- An anchor and a tag may stand before a node, in either order. -/
def properties : Reader (Option Nat × Option Tag) := do
  match (← peek).kind with
  | .anchor name =>
    skip
    let n ← nameAnchor name
    match (← peek).kind with
    | .tag t =>
      skip
      pure (some n, some t)
    | _ => pure (some n, none)
  | .tag t =>
    skip
    match (← peek).kind with
    | .anchor name =>
      skip
      let n ← nameAnchor name
      pure (some n, some t)
    | _ => pure (none, some t)
  | _ => pure (none, none)

def endsBlockEntry : TokenKind → Bool
  | .key | .value | .blockEnd => true
  | _ => false

mutual
/-- `block` allows block collections, `indentless` a sequence that is not indented. -/
def node : Nat → Bool → Bool → Reader Node
  | 0, _, _ => failure
  | n + 1, block, indentless => do
    match (← peek).kind with
    | .starred name =>
      skip
      pure (.starred (← anchorNamed name))
    | _ =>
      let (anchor, tag) ← properties
      let t ← peek
      match t.kind with
      | .scalar style text =>
        skip
        keep anchor (.scalar t.mark text style tag)
      | .flowSequenceStart =>
        skip
        keep anchor (.sequence t.mark (← flowItems n true))
      | .flowMappingStart =>
        skip
        keep anchor (.mapping t.mark (← flowEntries n true))
      | k =>
        if k = .blockEntry ∧ indentless then
          keep anchor (.sequence t.mark (← indentlessItems n))
        else if k = .blockSequenceStart ∧ block then
          skip
          keep anchor (.sequence t.mark (← blockItems n))
        else if k = .blockMappingStart ∧ block then
          skip
          keep anchor (.mapping t.mark (← blockEntries n))
        else if tag.isSome || anchor.isSome then
          keep anchor (.scalar t.mark "" .plain tag)
        else failure

def blockEntries : Nat → Reader (List (Node × Node))
  | 0 => failure
  | n + 1 => do
    let t ← peek
    match t.kind with
    | .blockEnd =>
      skip
      pure []
    | .key =>
      skip
      let t ← peek
      let key ← if endsBlockEntry t.kind then pure (.absent t.mark) else node n true true
      let value ← blockValue n
      pure ((key, value) :: (← blockEntries n))
    | .value =>
      let value ← blockValue n
      pure ((.absent t.mark, value) :: (← blockEntries n))
    | _ => failure

def blockValue : Nat → Reader Node
  | 0 => failure
  | n + 1 => do
    let t ← peek
    match t.kind with
    | .value =>
      skip
      let t ← peek
      if endsBlockEntry t.kind then pure (.absent t.mark) else node n true true
    | _ => pure (.absent t.mark)

def blockItems : Nat → Reader (List Node)
  | 0 => failure
  | n + 1 => do
    match (← peek).kind with
    | .blockEnd =>
      skip
      pure []
    | .blockEntry =>
      skip
      let t ← peek
      let item ← if t.kind = .blockEntry ∨ t.kind = .blockEnd then pure (.absent t.mark)
        else node n true false
      pure (item :: (← blockItems n))
    | _ => failure

def indentlessItems : Nat → Reader (List Node)
  | 0 => failure
  | n + 1 => do
    match (← peek).kind with
    | .blockEntry =>
      skip
      let t ← peek
      let item ← if t.kind = .blockEntry ∨ endsBlockEntry t.kind then pure (.absent t.mark)
        else node n true false
      pure (item :: (← indentlessItems n))
    | _ => pure []

def flowEntries : Nat → Bool → Reader (List (Node × Node))
  | 0, _ => failure
  | n + 1, first => do
    if (← peek).kind = .flowMappingEnd then
      skip
      pure []
    else
      if !first then
        if (← peek).kind = .flowEntry then skip else failure
      let t ← peek
      match t.kind with
      | .flowMappingEnd =>
        skip
        pure []
      | .key =>
        skip
        let t ← peek
        let key ←
          if t.kind = .value ∨ t.kind = .flowEntry ∨ t.kind = .flowMappingEnd then
            pure (.absent t.mark)
          else node n false false
        let value ← flowValue n
        pure ((key, value) :: (← flowEntries n false))
      | .value =>
        let value ← flowValue n
        pure ((.absent t.mark, value) :: (← flowEntries n false))
      | _ =>
        let key ← node n false false
        let value := .absent (← peek).mark
        pure ((key, value) :: (← flowEntries n false))

def flowValue : Nat → Reader Node
  | 0 => failure
  | n + 1 => do
    let t ← peek
    match t.kind with
    | .value =>
      skip
      let following := (← peek).kind
      if following = .flowEntry ∨ following = .flowMappingEnd then pure (.absent t.mark)
      else node n false false
    | _ => pure (.absent t.mark)

def flowItems : Nat → Bool → Reader (List Node)
  | 0, _ => failure
  | n + 1, first => do
    if (← peek).kind = .flowSequenceEnd then
      skip
      pure []
    else
      if !first then
        if (← peek).kind = .flowEntry then skip else failure
      let t ← peek
      match t.kind with
      | .flowSequenceEnd =>
        skip
        pure []
      | .key =>
        skip
        let item ← flowPair n t.mark
        pure (item :: (← flowItems n false))
      | _ =>
        let item ← node n false false
        pure (item :: (← flowItems n false))

def flowPair : Nat → Mark → Reader Node
  | 0, _ => failure
  | n + 1, m => do
    let t ← peek
    let key ←
      if t.kind = .value ∨ t.kind = .flowEntry ∨ t.kind = .flowSequenceEnd then
        skip
        pure (.absent t.mark)
      else node n false false
    let t ← peek
    if t.kind = .value then
      skip
      let t ← peek
      let value ← if t.kind = .flowEntry ∨ t.kind = .flowSequenceEnd then pure (.absent t.mark)
        else node n false false
      pure (.mapping m [(key, value)])
    else pure (.mapping m [(key, .absent t.mark)])
end

def isDirective : TokenKind → Bool
  | .versionDirective | .tagDirective => true
  | _ => false

def skipTokens (p : TokenKind → Bool) : Reader Unit := fun a =>
  some ((), { a with tokens := a.tokens.dropWhile fun t => p t.kind })

def content (steps : Nat) : Reader Node := do
  let t ← peek
  if isDirective t.kind || t.kind = .documentStart || t.kind = .documentEnd ||
      t.kind = .streamEnd then pure (.absent t.mark)
  else node steps true false

def explicitDocument (steps : Nat) : Reader Node := do
  skipTokens isDirective
  if (← peek).kind = .documentStart then
    skip
    content steps
  else failure

def endDocument (root : Node) : Reader Document := fun a =>
  let tokens := match a.tokens with
    | t :: ts => if t.kind = .documentEnd then ts else t :: ts
    | [] => []
  some (⟨root, a.anchored⟩, { a with tokens := tokens, names := [], anchored := [] })

def documents (steps : Nat) : Nat → Bool → Reader (List Document)
  | 0, _ => failure
  | n + 1, first => do
    if !first then skipTokens (· = .documentEnd)
    let t ← peek
    if t.kind = .streamEnd then pure []
    else
      let root ←
        if !first || isDirective t.kind || t.kind = .documentStart then explicitDocument steps
        else node steps true false
      let d ← endDocument root
      pure (d :: (← documents steps n false))

end Node

def Document.allOfText? (text : String) : Option (List Document) :=
  (Token.ofText? text).bind fun tokens =>
    let n := 4 * tokens.size + 4
    ((Node.documents n n true).run { tokens := tokens.toList }).map (·.1)

end Fieldwork.Markup
