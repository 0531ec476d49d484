import Fieldwork.Markup.Token
/-!
Scalars: plain, quoted and block text. A line break inside a plain or quoted scalar is folded into
a blank, unless empty lines follow it, which then stand for themselves.
-/
namespace Fieldwork.Markup

/-- A scalar that is being read: its text so far, and the blanks and breaks since then. -/
structure Folding where
  text : String := ""
  blanks : String := ""
  firstBreak : String := ""
  moreBreaks : String := ""
  broken : Bool := false

namespace Folding

def foldBreaks (f : Folding) : Folding :=
  let gap :=
    if f.firstBreak.isEmpty then f.moreBreaks
    else if f.moreBreaks.isEmpty then " " else f.moreBreaks
  { f with text := f.text ++ gap, firstBreak := "", moreBreaks := "", broken := false }

def join (f : Folding) : Folding :=
  if f.broken then f.foldBreaks else { f with text := f.text ++ f.blanks, blanks := "" }

def push (f : Folding) (c : Char) : Folding := { f with text := f.text.push c }

def addBlank (f : Folding) (c : Char) : Folding :=
  if f.broken then f else { f with blanks := f.blanks.push c }

def addBreak (f : Folding) : Folding :=
  if f.broken then { f with moreBreaks := f.moreBreaks.push '\n' }
  else { f with blanks := "", firstBreak := f.firstBreak.push '\n', broken := true }

end Folding

def plainEnds (inFlow : Bool) (c : Cursor) : Bool :=
  (c.peek = ':' && (isBlankOrEnd (c.peekAt 1) || (inFlow && isFlowIndicator (c.peekAt 1)))) ||
  (inFlow && isFlowIndicator c.peek)

def plainRun (inFlow : Bool) : Nat → Folding → Cursor → Folding × Cursor
  | 0, f, c => (f, c)
  | n + 1, f, c =>
    if isBlankOrEnd c.peek || plainEnds inFlow c then (f, c)
    else plainRun inFlow n (f.join.push c.peek) c.next

/-- Blanks and breaks inside a plain scalar; a tab may not stand for indentation. -/
def plainGap (indent : Int) : Nat → Folding → Cursor → Option (Folding × Cursor)
  | 0, f, c => some (f, c)
  | n + 1, f, c =>
    if isBlank c.peek then
      if f.broken && c.mark.column < indent && c.peek = '\t' then none
      else plainGap indent n (f.addBlank c.peek) c.next
    else if isBreak c.peek then plainGap indent n f.addBreak c.skipBreak
    else some (f, c)

def plainLines (inFlow : Bool) (indent : Int) :
    Nat → Folding → Cursor → Option (Folding × Cursor)
  | 0, f, c => some (f, c)
  | n + 1, f, c =>
    if c.atDocumentMarker || c.peek = '#' then some (f, c)
    else
      let (f, c) := plainRun inFlow c.steps f c
      if !(isBlank c.peek || isBreak c.peek) then some (f, c)
      else match plainGap indent c.steps f c with
        | none => none
        | some (f, c) =>
          if !inFlow && c.mark.column < indent then some (f, c)
          else plainLines inFlow indent n f c

def readPlain (inFlow : Bool) (indent : Int) (c : Cursor) : Option (String × Bool × Cursor) :=
  (plainLines inFlow indent c.steps {} c).map fun r => (r.1.text, r.1.broken, r.2)

def hexDigit? (c : Char) : Option Nat :=
  if '0' ≤ c && c ≤ '9' then some (c.toNat - '0'.toNat)
  else if 'a' ≤ c && c ≤ 'f' then some (c.toNat - 'a'.toNat + 10)
  else if 'A' ≤ c && c ≤ 'F' then some (c.toNat - 'A'.toNat + 10)
  else none

def hexNumber? (c : Cursor) : Nat → Nat → Option (Nat × Cursor)
  | 0, value => some (value, c)
  | n + 1, value =>
    match hexDigit? c.peek with
    | some d => hexNumber? c.next n (value * 16 + d)
    | none => none

def character? (n : Nat) : Option Char := if n.isValidChar then some (Char.ofNat n) else none

def escape? (c : Char) : Option (Char ⊕ Nat) :=
  match c with
  | '0' => some (.inl '\x00')
  | 'a' => some (.inl '\x07')
  | 'b' => some (.inl '\x08')
  | 't' | '\t' => some (.inl '\t')
  | 'n' => some (.inl '\n')
  | 'v' => some (.inl '\x0b')
  | 'f' => some (.inl '\x0c')
  | 'r' => some (.inl '\r')
  | 'e' => some (.inl '\x1b')
  | ' ' => some (.inl ' ')
  | '"' => some (.inl '"')
  | '\'' => some (.inl '\'')
  | '\\' => some (.inl '\\')
  | 'N' => some (.inl (Char.ofNat 0x85))
  | '_' => some (.inl (Char.ofNat 0xa0))
  | 'L' => some (.inl (Char.ofNat 0x2028))
  | 'P' => some (.inl (Char.ofNat 0x2029))
  | 'x' => some (.inr 2)
  | 'u' => some (.inr 4)
  | 'U' => some (.inr 8)
  | _ => none

def quotedRun (single : Bool) : Nat → Folding → Cursor → Option (Folding × Cursor)
  | 0, f, c => some (f, c)
  | n + 1, f, c =>
    if isBlankOrEnd c.peek then some (f, c)
    else if single && c.peek = '\'' then
      if c.peekAt 1 = '\'' then quotedRun single n (f.push '\'') c.next.next else some (f, c)
    else if !single && c.peek = '"' then some (f, c)
    else if !single && c.peek = '\\' then
      if isBreak (c.peekAt 1) then some ({ f with broken := true }, c.next.skipBreak)
      else match escape? (c.peekAt 1) with
        | none => none
        | some (.inl x) => quotedRun single n (f.push x) c.next.next
        | some (.inr digits) => match hexNumber? c.next.next digits 0 with
          | none => none
          | some (value, c) => match character? value with
            | none => none
            | some x => quotedRun single n (f.push x) c
    else quotedRun single n (f.push c.peek) c.next

def quotedGap : Nat → Folding → Cursor → Folding × Cursor
  | 0, f, c => (f, c)
  | n + 1, f, c =>
    if isBlank c.peek then quotedGap n (f.addBlank c.peek) c.next
    else if isBreak c.peek then quotedGap n f.addBreak c.skipBreak
    else (f, c)

def quotedLines (single : Bool) : Nat → Folding → Cursor → Option (String × Cursor)
  | 0, _, _ => none
  | n + 1, f, c =>
    if c.atDocumentMarker || c.atEnd then none
    else match quotedRun single c.steps { f with broken := false } c with
      | none => none
      | some (f, c) =>
        if c.peek = (if single then '\'' else '"') then some (f.text, c.next)
        else
          let (f, c) := quotedGap c.steps f c
          quotedLines single n f.join c

def readQuoted (single : Bool) (c : Cursor) : Option (String × Cursor) :=
  quotedLines single (c.steps + 1) {} c.next

inductive Chomping
  | strip
  | clip
  | keep
  deriving DecidableEq, Repr

def chomping? (c : Char) : Option Chomping :=
  if c = '+' then some .keep else if c = '-' then some .strip else none

/-- The indentation indicator, when there is one; it may not be zero. -/
def increment (c : Cursor) : Option (Nat × Cursor) :=
  if isDecimal c.peek then
    if c.peek = '0' then none else some (c.peek.toNat - '0'.toNat, c.next)
  else some (0, c)

def blockHeader (c : Cursor) : Option (Chomping × Nat × Cursor) :=
  match chomping? c.peek with
  | some chomping => (increment c.next).map fun r => (chomping, r.1, r.2)
  | none => (increment c).map fun r =>
    match if r.1 = 0 then none else chomping? r.2.peek with
    | some chomping => (chomping, r.1, r.2.next)
    | none => (.clip, r.1, r.2)

def skipIndent (indent : Nat) : Nat → Cursor → Cursor
  | 0, c => c
  | n + 1, c =>
    if (indent = 0 || c.mark.column < indent) && c.peek = ' ' then skipIndent indent n c.next else c

/-- Indentation and empty lines; answers the deepest column met and the breaks. -/
def blockBreaks (indent : Nat) : Nat → Nat → String → Cursor → Option (Nat × String × Cursor)
  | 0, deepest, breaks, c => some (deepest, breaks, c)
  | n + 1, deepest, breaks, c =>
    let c := skipIndent indent c.steps c
    let deepest := max deepest c.mark.column
    if (indent = 0 || c.mark.column < indent) && c.peek = '\t' then none
    else if isBreak c.peek then blockBreaks indent n deepest (breaks.push '\n') c.skipBreak
    else some (deepest, breaks, c)

structure Block where
  text : String := ""
  lastBreak : String := ""
  moreBreaks : String := ""
  leadingBlank : Bool := false

def Block.startLine (literal : Bool) (b : Block) (c : Cursor) : Block :=
  let blank := isBlank c.peek
  let gap :=
    if !literal && !b.lastBreak.isEmpty && !b.leadingBlank && !blank then
      if b.moreBreaks.isEmpty then " " else ""
    else b.lastBreak
  { text := b.text ++ gap ++ b.moreBreaks, lastBreak := "", moreBreaks := "",
    leadingBlank := blank }

def blockLines (literal : Bool) (indent : Nat) : Nat → Block → Cursor → Option (Block × Cursor)
  | 0, b, c => some (b, c)
  | n + 1, b, c =>
    if c.mark.column ≠ indent || c.atEnd then some (b, c)
    else
      let b := b.startLine literal c
      let (line, c) := c.span fun x => !isBreakOrEnd x
      let b := { b with text := b.text ++ String.ofList line }
      if c.atEnd then some (b, c)
      else
        let b := { b with lastBreak := "\n" }
        let c := c.skipBreak
        match blockBreaks indent c.steps 0 b.moreBreaks c with
        | none => none
        | some (_, breaks, c) => blockLines literal indent n { b with moreBreaks := breaks } c

def Block.finish (chomping : Chomping) (b : Block) : String :=
  match chomping with
  | .strip => b.text
  | .clip => b.text ++ b.lastBreak
  | .keep => b.text ++ b.lastBreak ++ b.moreBreaks

def readBlock (literal : Bool) (parent : Int) (c : Cursor) : Option (Mark × String × Cursor) :=
  match blockHeader c.next with
  | none => none
  | some (chomping, step, c) =>
    let c := (c.skipWhile isBlank).skipComment
    if !isBreakOrEnd c.peek then none
    else
      let c := c.skipBreak
      let given := if step = 0 then 0 else if 0 ≤ parent then (parent + step).toNat else step
      match blockBreaks given c.steps 0 "" c with
      | none => none
      | some (deepest, breaks, c) =>
        let indent := if given = 0 then max (max deepest (parent + 1).toNat) 1 else given
        (blockLines literal indent c.steps { moreBreaks := breaks } c).map fun r =>
          (c.mark, r.1.finish chomping, r.2)

end Fieldwork.Markup
