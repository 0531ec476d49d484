import Fieldwork.Markup.Scalar
/-!
Reading the tokens of a marked-up text. Whether a node is a key of a block mapping shows only at
the colon after it, so the places where a key may have begun are kept, and its tokens are put in
front of it when the colon comes. `none` stands for every error in the notation.
-/
namespace Fieldwork.Markup

structure KeyPlace where
  possible : Bool := false
  /-- Whether a key must have begun here: in a flow collection, at the column of the block. -/
  required : Bool := false
  tokens : Nat := 0
  mark : Mark := ⟨0, 0, 0⟩

structure Scanner where
  cursor : Cursor
  tokens : Array Token := #[]
  keyAllowed : Bool := true
  /-- One place for each open flow collection and one for the block around them, innermost first. -/
  places : List KeyPlace := [{}]
  indent : Int := -1
  outer : List Int := []
  flowDepth : Nat := 0
  /-- Where a colon may follow a quoted key without a blank after it. -/
  adjacentValueAt : Nat := 0
  finished : Bool := false

namespace Scanner

def mark (s : Scanner) : Mark := s.cursor.mark

def inFlow (s : Scanner) : Bool := s.flowDepth ≠ 0

def push (s : Scanner) (m : Mark) (k : TokenKind) : Scanner :=
  { s with tokens := s.tokens.push ⟨m, k⟩ }

def insertAt (s : Scanner) (n : Nat) (t : Token) : Scanner :=
  { s with tokens := s.tokens.insertIdxIfInBounds n t }

def move (s : Scanner) (c : Cursor) : Scanner := { s with cursor := c }

def allowKey (s : Scanner) (b : Bool) : Scanner := { s with keyAllowed := b }

def openBlock (s : Scanner) (column : Nat) (place : Option Nat) (m : Mark) (k : TokenKind) :
    Scanner :=
  if !s.inFlow && s.indent < column then
    let s := { s with outer := s.indent :: s.outer, indent := column }
    match place with
    | some n => s.insertAt n ⟨m, k⟩
    | none => s.push m k
  else s

def closeBlocksTo (column : Int) : List Int → Scanner → Scanner
  | [], s => s
  | indent :: outer, s =>
    if column < s.indent then
      closeBlocksTo column outer ({ s with indent := indent, outer := outer }.push s.mark .blockEnd)
    else s

def closeBlocks (s : Scanner) (column : Int) : Scanner :=
  if s.inFlow then s else closeBlocksTo column s.outer s

/-- A key lies on one line and within 1024 characters. -/
def isStale (m : Mark) (p : KeyPlace) : Bool :=
  p.possible && (p.mark.line < m.line || p.mark.index + 1024 < m.index)

def dropStale (s : Scanner) : Option Scanner :=
  if s.places.any (fun p => isStale s.mark p && p.required) then none
  else some { s with places := s.places.map fun p =>
    { p with possible := p.possible && !isStale s.mark p } }

def dropPlace (s : Scanner) : Option Scanner :=
  match s.places with
  | [] => none
  | p :: ps =>
    if p.possible && p.required then none
    else some { s with places := { p with possible := false } :: ps }

def notePlace (s : Scanner) : Option Scanner :=
  if s.keyAllowed then
    s.dropPlace.map fun s =>
      { s with places :=
        { possible := true, required := s.inFlow && s.indent = s.mark.column,
          tokens := s.tokens.size, mark := s.mark } :: s.places.tail }
  else some s

def skipToToken (inFlow : Bool) : Nat → Bool → Cursor → Bool × Cursor
  | 0, keyAllowed, c => (keyAllowed, c)
  | n + 1, keyAllowed, c =>
    if c.peek = ' ' || (c.peek = '\t' && (inFlow || !keyAllowed)) then
      skipToToken inFlow n keyAllowed c.next
    else if isBreak c.peek then skipToToken inFlow n (keyAllowed || !inFlow) c.skipBreak
    else if c.peek = '#' then skipToToken inFlow n keyAllowed c.skipComment
    else (keyAllowed, c)

def finish (s : Scanner) : Option Scanner :=
  let m := s.mark
  let m := if m.column = 0 then m else ⟨m.index, m.line + 1, 0⟩
  let s := { s with cursor := ⟨s.cursor.rest, m⟩ }
  (s.closeBlocks (-1)).dropPlace.map fun s =>
    { (s.allowKey false).push m .streamEnd with finished := true }

def directiveEnd (c : Cursor) : Option Cursor :=
  let c := (c.skipWhile isBlank).skipComment
  if isBreakOrEnd c.peek then some c.skipBreak else none

def versionNumber (c : Cursor) : Option Cursor :=
  let (digits, c) := c.span isDecimal
  if digits.isEmpty || 9 < digits.length then none else some c

def isUriChar (c : Char) : Bool :=
  isWordChar c || c ∈ ";/?:@&=+$,.!~*'()[]%".toList

def byteCount? (b : Nat) : Option Nat :=
  if b < 0x80 then some 1
  else if 0xc0 ≤ b && b < 0xe0 then some 2
  else if 0xe0 ≤ b && b < 0xf0 then some 3
  else if 0xf0 ≤ b && b < 0xf8 then some 4
  else none

def escapedByte? (c : Cursor) : Option (Nat × Cursor) :=
  if c.peek = '%' then hexNumber? c.next 2 0 else none

def followingBytes : Nat → Nat → Cursor → Option (Nat × Cursor)
  | 0, value, c => some (value, c)
  | n + 1, value, c => match escapedByte? c with
    | some (b, c) => if b / 64 = 2 then followingBytes n (value * 256 + b) c else none
    | none => none

/-- A character given by bytes, each as two hex digits after a percent sign. The bytes are read as
the digits of its number. -/
def uriEscape? (c : Cursor) : Option (Char × Cursor) :=
  match escapedByte? c with
  | none => none
  | some (b, c) => match byteCount? b with
    | none => none
    | some count => match followingBytes (count - 1) b c with
      | none => none
      | some (value, c) => (character? value).map fun x => (x, c)

def uriChars : Nat → String → Cursor → Option (String × Cursor)
  | 0, s, c => some (s, c)
  | n + 1, s, c =>
    if c.peek = '%' then match uriEscape? c with
      | some (x, c) => uriChars n (s.push x) c
      | none => none
    else if isUriChar c.peek then uriChars n (s.push c.peek) c.next
    else some (s, c)

def tagUri (head : String) (c : Cursor) : Option (String × Cursor) :=
  match uriChars c.steps (String.ofList (head.toList.drop 1)) c with
  | none => none
  | some (s, after) =>
    if head.isEmpty && after.mark.index = c.mark.index then none else some (s, after)

def tagHandle (directive : Bool) (c : Cursor) : Option (String × Cursor) :=
  if c.peek ≠ '!' then none
  else
    let (word, c) := c.next.span isWordChar
    let handle := String.ofList ('!' :: word)
    if c.peek = '!' then some (handle.push '!', c.next)
    else if directive && !word.isEmpty then none
    else some (handle, c)

def tagDirective (c : Cursor) : Option Cursor :=
  match tagHandle true (c.skipWhile isBlank) with
  | none => none
  | some (_, c) => match tagUri "" (c.skipWhile isBlank) with
    | none => none
    | some (_, c) => if isBlankOrEnd c.peek then some c else none

def versionDirective (c : Cursor) : Option Cursor :=
  match versionNumber (c.skipWhile isBlank) with
  | none => none
  | some c => if c.peek = '.' then versionNumber c.next else none

def directive (s : Scanner) : Option Scanner := do
  let m := s.mark
  let s ← (s.closeBlocks (-1)).dropPlace
  let (name, c) := s.cursor.next.span isWordChar
  if name.isEmpty || !isBlankOrEnd c.peek then none
  else
    let (kind, c) ← match String.ofList name with
      | "YAML" => (versionDirective c).map fun c => (TokenKind.versionDirective, c)
      | "TAG" => (tagDirective c).map fun c => (TokenKind.tagDirective, c)
      | _ => some (.tagDirective, c.skipWhile fun x => !isBreakOrEnd x)
    let c ← directiveEnd c
    pure (((s.allowKey false).push m kind).move c)

def documentMarker (s : Scanner) (k : TokenKind) : Option Scanner := do
  let s ← (s.closeBlocks (-1)).dropPlace
  pure (((s.allowKey false).push s.mark k).move (s.cursor.nextN 3))

def flowStart (s : Scanner) (k : TokenKind) : Option Scanner := do
  let s ← s.notePlace
  if s.flowDepth = 255 then none
  else
    let s := { s with places := {} :: s.places, flowDepth := s.flowDepth + 1 }
    pure (((s.allowKey true).push s.mark k).move s.cursor.next)

def flowEnd (s : Scanner) (k : TokenKind) : Option Scanner := do
  let s ← s.dropPlace
  let s := if s.inFlow then { s with places := s.places.tail, flowDepth := s.flowDepth - 1 } else s
  pure (((s.allowKey false).push s.mark k).move s.cursor.next)

def flowEntry (s : Scanner) : Option Scanner := do
  let s ← s.dropPlace
  pure (((s.allowKey true).push s.mark .flowEntry).move s.cursor.next)

def blockEntry (s : Scanner) : Option Scanner := do
  if s.inFlow || !s.keyAllowed then none
  else
    let s ← (s.openBlock s.mark.column none s.mark .blockSequenceStart).dropPlace
    pure (((s.allowKey true).push s.mark .blockEntry).move s.cursor.next)

def explicitKey (s : Scanner) : Option Scanner := do
  if !s.inFlow && !s.keyAllowed then none
  else
    let s ← (s.openBlock s.mark.column none s.mark .blockMappingStart).dropPlace
    pure (((s.allowKey !s.inFlow).push s.mark .key).move s.cursor.next)

def value (s : Scanner) : Option Scanner := do
  let m := s.mark
  match s.places with
  | [] => none
  | p :: ps =>
    if p.possible then
      let s := (s.insertAt p.tokens ⟨p.mark, .key⟩).openBlock p.mark.column (some p.tokens) m
        .blockMappingStart
      let s := { s with places := { p with possible := false } :: ps }
      pure (((s.allowKey false).push m .value).move s.cursor.next)
    else if !s.inFlow && !s.keyAllowed then none
    else
      let s := s.openBlock m.column none m .blockMappingStart
      pure (((s.allowKey !s.inFlow).push m .value).move s.cursor.next)

def endsName (c : Char) : Bool := isBlankOrEnd c || c ∈ "?:,]\x7d%@`".toList

def anchor (s : Scanner) (kind : String → TokenKind) : Option Scanner := do
  let s ← s.notePlace
  let (name, c) := s.cursor.next.span isWordChar
  if name.isEmpty || !endsName c.peek then none
  else pure (((s.allowKey false).push s.mark (kind (String.ofList name))).move c)

def readTag (c : Cursor) : Option (Tag × Cursor) :=
  if c.peekAt 1 = '<' then match tagUri "" c.next.next with
    | some (uri, c) => if c.peek = '>' then some (⟨"", uri⟩, c.next) else none
    | none => none
  else match tagHandle false c with
    | none => none
    | some (handle, c) =>
      if 2 ≤ handle.length && handle.endsWith "!" then
        (tagUri "" c).map fun r => (⟨handle, r.1⟩, r.2)
      else (tagUri handle c).map fun r =>
        (if r.1.isEmpty then ⟨"", "!"⟩ else ⟨"!", r.1⟩, r.2)

def tag (s : Scanner) : Option Scanner := do
  let s ← s.notePlace
  let (t, c) ← readTag s.cursor
  if isBlankOrEnd c.peek then pure (((s.allowKey false).push s.mark (.tag t)).move c) else none

def blockScalar (s : Scanner) (literal : Bool) : Option Scanner := do
  let s ← s.notePlace
  let (m, text, c) ← readBlock literal s.indent s.cursor
  let style := if literal then ScalarStyle.literal else .folded
  pure (((s.allowKey true).push m (.scalar style text)).move c)

def quotedScalar (s : Scanner) (single : Bool) : Option Scanner := do
  let s ← s.notePlace
  let (text, c) ← readQuoted single s.cursor
  let style := if single then ScalarStyle.singleQuoted else .doubleQuoted
  pure { ((s.allowKey false).push s.mark (.scalar style text)).move c with
    adjacentValueAt := c.mark.index }

def plainScalar (s : Scanner) : Option Scanner := do
  let s ← s.notePlace
  let (text, broken, c) ← readPlain s.inFlow (s.indent + 1) s.cursor
  pure (((s.allowKey broken).push s.mark (.scalar .plain text)).move c)

def atValue (s : Scanner) : Bool :=
  let following := s.cursor.peekAt 1
  isBlankOrEnd following ||
    (s.inFlow && (isFlowIndicator following || s.mark.index = s.adjacentValueAt))

def token (s : Scanner) : Option Scanner :=
  let c := s.cursor
  if c.atEnd then s.finish
  else if s.mark.column = 0 && c.peek = '%' then s.directive
  else if c.atMarker '-' then s.documentMarker .documentStart
  else if c.atMarker '.' then s.documentMarker .documentEnd
  else match c.peek with
    | '[' => s.flowStart .flowSequenceStart
    | '\x7b' => s.flowStart .flowMappingStart
    | ']' => s.flowEnd .flowSequenceEnd
    | '\x7d' => s.flowEnd .flowMappingEnd
    | ',' => s.flowEntry
    | '*' => s.anchor .starred
    | '&' => s.anchor .anchor
    | '!' => s.tag
    | '\'' => s.quotedScalar true
    | '"' => s.quotedScalar false
    | '-' => if isBlankOrEnd (c.peekAt 1) then s.blockEntry else s.plainScalar
    | '?' =>
      if isBlankOrEnd (c.peekAt 1) then s.explicitKey else s.plainScalar
    | ':' => if s.atValue then s.value else s.plainScalar
    | '|' => if s.inFlow then s.plainScalar else s.blockScalar true
    | '>' => if s.inFlow then s.plainScalar else s.blockScalar false
    | '%' | '@' | '`' => none
    | _ => s.plainScalar

def step (s : Scanner) : Option Scanner :=
  let (keyAllowed, c) := skipToToken s.inFlow s.cursor.steps s.keyAllowed s.cursor
  (({ s with keyAllowed := keyAllowed, cursor := c }).dropStale).bind fun s =>
    (s.closeBlocks s.mark.column).token

def run : Nat → Scanner → Option (Array Token)
  | 0, _ => none
  | n + 1, s => s.step.bind fun s => if s.finished then some s.tokens else run n s

end Scanner

def Token.ofText? (text : String) : Option (Array Token) :=
  let c := Cursor.ofText text
  Scanner.run (c.steps + 1) { cursor := c }

end Fieldwork.Markup
