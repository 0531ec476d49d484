import Fieldwork.Decimal.Shortest
/-!
Binary fractions of double precision, kept as their stored bits so that equality is decidable.
-/
namespace Fieldwork

structure Double where
  bits : UInt64
  deriving DecidableEq, Repr

namespace Double

def negative (x : Double) : Bool := x.bits.toNat / 0x8000000000000000 = 1

def exponentField (x : Double) : Nat := x.bits.toNat / 0x10000000000000 % 2048

def fractionField (x : Double) : Nat := x.bits.toNat % 0x10000000000000

def finite (x : Double) : Bool := x.exponentField < 2047

def ofDecimal (negative : Bool) (digits : Nat) (power : Int) : Double :=
  let x := Float.ofScientific digits (power < 0) power.natAbs
  ⟨(if negative then -x else x).toBits⟩

def ofDecimal? (negative : Bool) (digits : Nat) (power : Int) : Option Double :=
  let x := ofDecimal negative digits power
  if x.finite then some x else none

def digits (tie : Decimal.Tie) (x : Double) : Decimal.Digits :=
  Decimal.shortest tie x.exponentField x.fractionField

def sign (x : Double) : List Char := if x.negative then ['-'] else []

def isZero (x : Double) : Bool := x.exponentField = 0 && x.fractionField = 0

def write (style : Decimal.Style) (x : Double) : String :=
  String.ofList (x.sign ++ if x.isZero then ['0', '.', '0'] else (x.digits style.tie).write style)

def ofInt (n : Int) : Double :=
  let x := Float.ofNat n.natAbs
  ⟨(if n < 0 then -x else x).toBits⟩

end Double
end Fieldwork
