import Fieldwork.Markup.Node
import Fieldwork.Decode.Error
/-!
What a scalar stands for. A plain scalar may be null, a boolean or a number; a tag decides it for
any scalar; all others are strings.
-/
namespace Fieldwork.Markup

def digitIn? (radix : Nat) (c : Char) : Option Nat :=
  (hexDigit? c).bind fun d => if d < radix then some d else none

def digits? (radix : Nat) : Nat → List Char → Option Nat
  | n, [] => some n
  | n, c :: cs => (digitIn? radix c).bind fun d => digits? radix (n * radix + d) cs

def natural? (radix : Nat) (s : List Char) : Option Nat :=
  if s.isEmpty then none else digits? radix 0 s

def signed? (radix : Nat) : List Char → Option Int
  | '-' :: s => (natural? radix s).map fun n => -(n : Int)
  | '+' :: s => (natural? radix s).map Int.ofNat
  | s => (natural? radix s).map Int.ofNat

/-- Numbers with a letter for their radix, such as `0x1f`; these are kept within 64 bits. -/
def lettered? (s : List Char) : Option Int :=
  let read (radix : Nat) (s : List Char) : Option Int :=
    (signed? radix s).bind fun n =>
      if 0 ≤ n ∧ n < 0x10000000000000000 ∧ s.head? ≠ some '-' then some n else none
  let readNegative (radix : Nat) (s : List Char) : Option Int :=
    (natural? radix s).bind fun n => if n ≤ 0x8000000000000000 then some (-(n : Int)) else none
  match s with
  | '0' :: 'x' :: s | '+' :: '0' :: 'x' :: s => read 16 s
  | '0' :: 'o' :: s | '+' :: '0' :: 'o' :: s => read 8 s
  | '0' :: 'b' :: s | '+' :: '0' :: 'b' :: s => read 2 s
  | '-' :: '0' :: 'x' :: s => readNegative 16 s
  | '-' :: '0' :: 'o' :: s => readNegative 8 s
  | '-' :: '0' :: 'b' :: s => readNegative 2 s
  | _ => none

def dropSign : List Char → List Char
  | '-' :: s => s
  | '+' :: s => s
  | s => s

/-- Digits after a leading zero are text and no number. -/
def isPadded (s : List Char) : Bool :=
  match dropSign s with
  | '0' :: d :: ds => (d :: ds).all isDecimal
  | _ => false

def digitsNat (s : List Char) : Nat := (digits? 10 0 s).getD 0

def exponent? : List Char → Option Int
  | [] => some 0
  | e :: s => if e = 'e' || e = 'E' then signed? 10 s else none

def decimal? (s : List Char) : Option Double :=
  let negative := s.head? = some '-'
  let s := dropSign s
  let whole := s.takeWhile isDecimal
  let s := s.dropWhile isDecimal
  let (fraction, s) := match s with
    | '.' :: s => (s.takeWhile isDecimal, s.dropWhile isDecimal)
    | s => ([], s)
  if whole.isEmpty && fraction.isEmpty then none
  else (exponent? s).map fun e =>
    Double.ofDecimal negative (digitsNat (whole ++ fraction)) (e - fraction.length)

def infinite (negative : Bool) : Double :=
  ⟨if negative then 0xfff0000000000000 else 0x7ff0000000000000⟩

def notANumber : Double := ⟨0x7ff8000000000000⟩

def specialFloat? (s : String) : Option Double :=
  if s = "-.inf" || s = "-.Inf" || s = "-.INF" then some (infinite true)
  else if s = ".nan" || s = ".NaN" || s = ".NAN" then some notANumber
  else
    let s := String.ofList (s.toList.dropWhile (· = '+'))
    if s = ".inf" || s = ".Inf" || s = ".INF" then some (infinite false) else none

def wholeFound (n : Int) : Option Found :=
  if -0x8000000000000000 ≤ n ∧ n < 0x10000000000000000 then some (.int n)
  else if -0x80000000000000000000000000000000 ≤ n ∧ n < 0x100000000000000000000000000000000 then
    some (.wideInt n)
  else none

def plainFound (s : String) : Found :=
  let cs := s.toList
  if s = "~" || s = "null" then .null
  else if s = "true" then .bool true
  else if s = "false" then .bool false
  else match lettered? cs with
    | some n => .int n
    | none =>
      if isPadded cs then .string s
      else match (signed? 10 cs).bind wholeFound with
        | some f => f
        | none => match specialFloat? s with
          | some x => .float x
          | none => match decimal? cs with
            | some x => if x.finite then .float x else .string s
            | none => .string s

def isWord (s : String) (word : String) : Bool := s.toLower = word

def anyFloat? (s : String) : Option Double :=
  let unsigned := String.ofList (dropSign s.toList)
  if isWord unsigned "inf" || isWord unsigned "infinity" then
    some (infinite (s.toList.head? = some '-'))
  else if isWord unsigned "nan" then some notANumber
  else decimal? s.toList

def taggedFound (suffix s : String) : Except DecodeError Found :=
  let refuse (expected : String) : Except DecodeError Found :=
    .error (.wrongValue (.string s) expected)
  match suffix with
  | "bool" =>
    if s = "true" then .ok (.bool true)
    else if s = "false" then .ok (.bool false) else refuse "a boolean"
  | "int" => match signed? 10 s.toList with
    | some n =>
      if -0x8000000000000000 ≤ n ∧ n < 0x8000000000000000 then .ok (.int n)
      else refuse "an integer"
    | none => refuse "an integer"
  | "float" => match anyFloat? s with
    | some x => .ok (.float x)
    | none => refuse "a float"
  | "null" => if s = "~" || s = "null" then .ok .null else refuse "null"
  | _ => .ok (.string s)

def scalarFound (text : String) (style : ScalarStyle) : Option Tag → Except DecodeError Found
  | some t => if t.handle = "!!" then taggedFound t.suffix text else .ok (.string text)
  | none => .ok (if style = .plain then plainFound text else .string text)

end Fieldwork.Markup
