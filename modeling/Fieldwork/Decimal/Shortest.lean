/-!
The shortest decimal that reads back as a given binary fraction. A finite double is `m · 2 ^ q`;
the reals that round to it form an interval whose ends belong to it when `m` is even. On the grid
of multiples of `10 ^ k` only the two neighbours of the value can be nearest, so the coarsest grid
with a neighbour inside the interval gives the fewest digits.
-/
namespace Fieldwork.Decimal

structure Span where
  value : Nat
  low : Nat
  high : Nat
  scaleUp : Nat
  scaleDown : Nat
  closed : Bool

def Span.ofFields (exponent fraction : Nat) : Span :=
  let m := if exponent = 0 then fraction else 0x10000000000000 + fraction
  let e := if exponent = 0 then 1 else exponent
  { value := 4 * m
    low := if fraction = 0 ∧ 1 < e then 4 * m - 1 else 4 * m - 2
    high := 4 * m + 2
    scaleUp := Nat.pow 2 (e - 1077)
    scaleDown := Nat.pow 2 (1077 - e)
    closed := m % 2 = 0 }

structure Digits where
  digits : Nat
  power : Int
  deriving DecidableEq, Repr

def within (s : Span) (x low high : Nat) : Bool :=
  if s.closed then low ≤ x && x ≤ high else low < x && x < high

inductive Tie
  | even
  | away
  deriving DecidableEq, Repr

def Tie.takesLower (t : Tie) (lower : Nat) : Bool :=
  match t with
  | even => lower % 2 = 0
  | away => false

def neighbour? (tie : Tie) (s : Span) (power : Int) : Option Nat :=
  let up := s.scaleUp * Nat.pow 10 (-power).toNat
  let unit := s.scaleDown * Nat.pow 10 power.toNat
  let v := s.value * up
  let below := v / unit
  let fits (d : Nat) : Bool := within s (d * unit) (s.low * up) (s.high * up)
  match fits below && below ≠ 0, fits (below + 1) with
  | true, true =>
    let left := v - below * unit
    let right := (below + 1) * unit - v
    if left < right || (left = right && tie.takesLower below) then some below else some (below + 1)
  | true, false => some below
  | false, true => some (below + 1)
  | false, false => none

def search (tie : Tie) (s : Span) : Nat → Digits
  | 0 => ⟨s.value, 0⟩
  | steps + 1 =>
    let power : Int := (steps : Int) - 350
    match neighbour? tie s power with
    | some d => ⟨d, power⟩
    | none => search tie s steps

def shortest (tie : Tie) (exponent fraction : Nat) : Digits :=
  search tie (Span.ofFields exponent fraction) 661

structure Style where
  tie : Tie
  leastPower : Int
  greatestPower : Int
  plusSign : Bool

/-- Positional from `10 ^ -5` to below `10 ^ 16`; a whole number keeps one zero after its point;
an exponent has its sign and no padding. -/
def json : Style := ⟨.even, -5, 15, true⟩

def zeros (n : Nat) : List Char := List.replicate n '0'

def Digits.write (style : Style) (d : Digits) : List Char :=
  let ds := Nat.toDigits 10 d.digits
  let leading : Int := d.power + ds.length - 1
  if style.leastPower ≤ leading ∧ leading ≤ style.greatestPower then
    if 0 ≤ d.power then ds ++ zeros d.power.toNat ++ ['.', '0']
    else if 0 ≤ leading then
      ds.take (leading.toNat + 1) ++ '.' :: ds.drop (leading.toNat + 1)
    else '0' :: '.' :: zeros (-leading - 1).toNat ++ ds
  else
    let sign := if leading < 0 then ['-'] else if style.plusSign then ['+'] else []
    let tail := 'e' :: sign ++ Nat.toDigits 10 leading.natAbs
    match ds with
    | [] => tail
    | [c] => c :: tail
    | c :: cs => c :: '.' :: cs ++ tail

end Fieldwork.Decimal
