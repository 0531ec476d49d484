import Fieldwork.Json.Value
/-!
Reading JSON text. A number with a fraction or an exponent, a whole number outside
-2^63 .. 2^64-1 and -0 are read as doubles. A key given twice keeps its first place and its last
value.
-/
namespace Fieldwork.Json

def isBlank (c : Char) : Bool := c = ' ' || c = '\n' || c = '\t' || c = '\r'

def skipBlanks (s : List Char) : List Char := s.dropWhile isBlank

def hexValue? (c : Char) : Option Nat :=
  if '0' ≤ c && c ≤ '9' then some (c.toNat - '0'.toNat)
  else if 'a' ≤ c && c ≤ 'f' then some (c.toNat - 'a'.toNat + 10)
  else if 'A' ≤ c && c ≤ 'F' then some (c.toNat - 'A'.toNat + 10)
  else none

def unit16? (a b c d : Char) : Option Nat := do
  let a ← hexValue? a
  let b ← hexValue? b
  let c ← hexValue? c
  let d ← hexValue? d
  pure (a * 4096 + b * 256 + c * 16 + d)

def simpleEscape? (c : Char) : Option Char :=
  match c with
  | '"' => some '"'
  | '\\' => some '\\'
  | '/' => some '/'
  | 'b' => some '\x08'
  | 'f' => some '\x0c'
  | 'n' => some '\n'
  | 'r' => some '\r'
  | 't' => some '\t'
  | _ => none

/-- The rest of a string after its opening quote; `done` holds what was read, last first. `high`
is the first half of a character given by two escapes. -/
def readString (done : List Char) (high : Option Nat) : List Char → Option (String × List Char)
  | [] => none
  | '"' :: rest => if high.isSome then none else some (String.ofList done.reverse, rest)
  | '\\' :: 'u' :: a :: b :: c :: d :: rest =>
    match unit16? a b c d, high with
    | none, _ => none
    | some u, some h =>
      if 0xdc00 ≤ u && u < 0xe000 then
        readString (Char.ofNat (0x10000 + (h - 0xd800) * 1024 + (u - 0xdc00)) :: done) none rest
      else none
    | some u, none =>
      if 0xd800 ≤ u && u < 0xdc00 then readString done (some u) rest
      else if 0xdc00 ≤ u && u < 0xe000 then none
      else readString (Char.ofNat u :: done) none rest
  | '\\' :: c :: rest =>
    if high.isSome then none
    else match simpleEscape? c with
      | some x => readString (x :: done) none rest
      | none => none
  | c :: rest =>
    if high.isSome || c = '\\' || c.toNat < 0x20 then none else readString (c :: done) none rest

def digitsValue (ds : List Char) : Nat := ds.foldl (fun n c => n * 10 + (c.toNat - '0'.toNat)) 0

def isDigit (c : Char) : Bool := '0' ≤ c && c ≤ '9'

structure Numeral where
  negative : Bool
  whole : List Char
  fraction : Option (List Char)
  exponent : Option Int

def Numeral.value? (n : Numeral) : Option Value :=
  match n.fraction, n.exponent with
  | none, none =>
    let m := digitsValue n.whole
    let z : Int := if n.negative then -m else m
    if n.negative && m = 0 then (Double.ofDecimal? true 0 0).map .float
    else if -0x8000000000000000 ≤ z ∧ z < 0x10000000000000000 then some (.int z)
    else (Double.ofDecimal? n.negative m 0).map .float
  | fraction, exponent =>
    let f := fraction.getD []
    (Double.ofDecimal? n.negative (digitsValue (n.whole ++ f)) (exponent.getD 0 - f.length)).map
      .float

def readExponent? (s : List Char) : Option (Option Int × List Char) :=
  match s with
  | e :: rest =>
    if e = 'e' || e = 'E' then
      let (negative, rest) := match rest with
        | '-' :: r => (true, r)
        | '+' :: r => (false, r)
        | r => (false, r)
      let ds := rest.takeWhile isDigit
      if ds.isEmpty then none
      else
        let x : Int := digitsValue ds
        some (some (if negative then -x else x), rest.dropWhile isDigit)
    else some (none, s)
  | [] => some (none, [])

def readFraction? (s : List Char) : Option (Option (List Char) × List Char) :=
  match s with
  | '.' :: rest =>
    let ds := rest.takeWhile isDigit
    if ds.isEmpty then none else some (some ds, rest.dropWhile isDigit)
  | s => some (none, s)

def readNumber? (s : List Char) : Option (Value × List Char) := do
  let (negative, s) := match s with
    | '-' :: r => (true, r)
    | r => (false, r)
  let whole := s.takeWhile isDigit
  let s := s.dropWhile isDigit
  if whole.isEmpty || (whole.head? = some '0' && 1 < whole.length) then none
  else
    let (fraction, s) ← readFraction? s
    let (exponent, s) ← readExponent? s
    let v ← Numeral.value? ⟨negative, whole, fraction, exponent⟩
    pure (v, s)

def readWord? (word : List Char) (v : Value) (s : List Char) : Option (Value × List Char) :=
  if word.isPrefixOf s then some (v, s.drop word.length) else none

mutual
/-- Reads one value; `depth` bounds the nesting and the number of steps. -/
def readValue : Nat → List Char → Option (Value × List Char)
  | 0, _ => none
  | depth + 1, s =>
    match skipBlanks s with
    | 'n' :: rest => readWord? ['u', 'l', 'l'] .null rest
    | 't' :: rest => readWord? ['r', 'u', 'e'] (.bool true) rest
    | 'f' :: rest => readWord? ['a', 'l', 's', 'e'] (.bool false) rest
    | '"' :: rest => (readString [] none rest).map fun r => (.string r.1, r.2)
    | '[' :: rest =>
      match skipBlanks rest with
      | ']' :: rest => some (.array [], rest)
      | rest => readItems depth [] rest
    | '\x7b' :: rest =>
      match skipBlanks rest with
      | '\x7d' :: rest => some (.object [], rest)
      | rest => readMembers depth [] rest
    | s => readNumber? s
def readItems : Nat → List Value → List Char → Option (Value × List Char)
  | 0, _, _ => none
  | depth + 1, done, s => do
    let (v, s) ← readValue depth s
    match skipBlanks s with
    | ',' :: rest => readItems depth (v :: done) rest
    | ']' :: rest => pure (.array (v :: done).reverse, rest)
    | _ => none
def readMembers : Nat → Object → List Char → Option (Value × List Char)
  | 0, _, _ => none
  | depth + 1, done, s =>
    match skipBlanks s with
    | '"' :: rest => do
      let (key, s) ← readString [] none rest
      match skipBlanks s with
      | ':' :: s => do
        let (v, s) ← readValue depth s
        let done := Dict.insert done key v
        match skipBlanks s with
        | ',' :: rest => readMembers depth done rest
        | '\x7d' :: rest => pure (.object done, rest)
        | _ => none
      | _ => none
    | _ => none
end

def Value.parse? (text : String) : Option Value :=
  let s := text.toList
  match readValue (2 * s.length + 2) s with
  | some (v, rest) => if (skipBlanks rest).isEmpty then some v else none
  | none => none

end Fieldwork.Json
