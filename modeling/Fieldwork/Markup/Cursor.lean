/-!
A place in a marked-up text. Lines count from one and columns from zero; only a line feed starts a
new line. The end of the text reads as NUL, and a NUL ends the text.
-/
namespace Fieldwork.Markup

structure Mark where
  index : Nat
  line : Nat
  column : Nat
  deriving DecidableEq, Repr, Inhabited

structure Cursor where
  rest : List Char
  mark : Mark

def isEnd (c : Char) : Bool := c = '\x00'

def isBreak (c : Char) : Bool := c = '\n' || c = '\r'

def isBreakOrEnd (c : Char) : Bool := isBreak c || isEnd c

def isBlank (c : Char) : Bool := c = ' ' || c = '\t'

def isBlankOrEnd (c : Char) : Bool := isBlank c || isBreakOrEnd c

def isWordChar (c : Char) : Bool :=
  ('0' ≤ c && c ≤ '9') || ('a' ≤ c && c ≤ 'z') || ('A' ≤ c && c ≤ 'Z') || c = '_' || c = '-'

def isDecimal (c : Char) : Bool := '0' ≤ c && c ≤ '9'

def isFlowIndicator (c : Char) : Bool :=
  c = ',' || c = '[' || c = ']' || c = '\x7b' || c = '\x7d'

def Mark.advance (m : Mark) (c : Char) : Mark :=
  if c = '\n' then ⟨m.index + 1, m.line + 1, 0⟩ else ⟨m.index + 1, m.line, m.column + 1⟩

namespace Cursor

def ofText (s : String) : Cursor := ⟨s.toList, ⟨0, 1, 0⟩⟩

def peek (c : Cursor) : Char := c.rest.headD '\x00'

def peekAt (c : Cursor) (n : Nat) : Char := (c.rest.drop n).headD '\x00'

def atEnd (c : Cursor) : Bool := isEnd c.peek

def next (c : Cursor) : Cursor :=
  match c.rest with
  | [] => c
  | x :: r => ⟨r, c.mark.advance x⟩

def nextN (c : Cursor) : Nat → Cursor
  | 0 => c
  | n + 1 => c.next.nextN n

def steps (c : Cursor) : Nat := c.rest.length + 1

def spanFrom (p : Char → Bool) (m : Mark) : List Char → List Char × Cursor
  | [] => ([], ⟨[], m⟩)
  | x :: r =>
    if p x then
      let (taken, c) := spanFrom p (m.advance x) r
      (x :: taken, c)
    else ([], ⟨x :: r, m⟩)

def span (p : Char → Bool) (c : Cursor) : List Char × Cursor := spanFrom p c.mark c.rest

def skipWhile (p : Char → Bool) (c : Cursor) : Cursor := (c.span p).2

def skipBreak (c : Cursor) : Cursor :=
  if c.peek = '\r' && c.peekAt 1 = '\n' then c.next.next
  else if isBreak c.peek then c.next else c

def skipComment (c : Cursor) : Cursor :=
  if c.peek = '#' then c.skipWhile fun x => !isBreakOrEnd x else c

def atMarker (c : Cursor) (x : Char) : Bool :=
  c.mark.column = 0 && c.peek = x && c.peekAt 1 = x && c.peekAt 2 = x && isBlankOrEnd (c.peekAt 3)

def atDocumentMarker (c : Cursor) : Bool := c.atMarker '-' || c.atMarker '.'

end Cursor
end Fieldwork.Markup
