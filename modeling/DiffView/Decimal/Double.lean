namespace DiffView.Decimal

/-- The bits of a double. -/
abbrev Double := UInt64

namespace Double

def signUnit : Nat := 0x8000000000000000

def exponentUnit : Nat := 0x10000000000000

def isNegative (d : Double) : Bool := signUnit ≤ d.toNat

def exponentField (d : Double) : Nat := d.toNat / exponentUnit % 2048

def fractionField (d : Double) : Nat := d.toNat % exponentUnit

def isFinite (d : Double) : Bool := exponentField d != 2047

/-- The absolute value is `mantissa * 2 ^ exponent`. -/
def mantissa (d : Double) : Nat :=
  if exponentField d = 0 then fractionField d else fractionField d + exponentUnit

def exponent (d : Double) : Int := (max (exponentField d) 1 : Nat) - 1075

def ofNat (n : Nat) : Double := (UInt64.ofNat n).toFloat.toBits

def negate (d : Double) : Double := UInt64.ofNat (d.toNat + signUnit)

end Double

def maxSignificand : Nat := 18446744073709551615

/-- Digits are taken up while the significand fits 64 bits. The second component counts the digits
from the first one on that does not fit. -/
def takeDigits (significand : Nat) : List Nat → Nat × Nat
  | [] => (significand, 0)
  | d :: ds =>
    if significand * 10 + d ≤ maxSignificand then takeDigits (significand * 10 + d) ds
    else (significand, ds.length + 1)

def scaleDown : Nat → Float → Nat → Float
  | 0, x, _ => x
  | steps + 1, x, exponent =>
    if exponent ≤ 308 then x / Float.ofScientific 1 false exponent
    else if x == 0 then x
    else scaleDown steps (x / Float.ofScientific 1 false 308) (exponent - 308)

def scale? (significand : Nat) (exponent : Int) : Option Float :=
  let x := (UInt64.ofNat significand).toFloat
  if exponent < 0 then some (scaleDown (exponent.natAbs + 1) x exponent.natAbs)
  else if exponent ≤ 308 then
    let y := x * Float.ofScientific 1 false exponent.natAbs
    if y.isFinite then some y else none
  else if significand = 0 then some x
  else none

def ofDigits? (negative : Bool) (whole fraction : List Nat) (exponent : Int) : Option Double := do
  let (head, droppedWhole) := takeDigits 0 whole
  let (significand, droppedFraction) := takeDigits head fraction
  let x ← scale? significand (exponent + droppedWhole - (fraction.length - droppedFraction : Nat))
  pure (if negative then (-x).toBits else x.toBits)

end DiffView.Decimal
