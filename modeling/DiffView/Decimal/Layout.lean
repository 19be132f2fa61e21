import DiffView.Decimal.Shortest

namespace DiffView.Decimal

structure Layout where
  tie : Tie
  /-- Which powers of ten of the leading digit are written without an exponent. -/
  positional : Int → Bool
  /-- Does a whole number end in `.0`? -/
  point : Bool

namespace Layout

def zeros (n : Nat) : List Char := List.replicate n '0'

def digitsOf (d : Numeral) : List Char := Nat.toDigits 10 d.digits

def magnitude (d : Numeral) : Int := d.exponent + (digitsOf d).length - 1

def whole (l : Layout) (digits : List Char) : List Char :=
  if l.point then digits ++ ['.', '0'] else digits

def plain (l : Layout) (d : Numeral) : List Char :=
  let digits := digitsOf d
  if 0 ≤ d.exponent then l.whole (digits ++ zeros d.exponent.toNat)
  else if 0 ≤ magnitude d then
    let n := (magnitude d).toNat + 1
    digits.take n ++ '.' :: digits.drop n
  else ['0', '.'] ++ zeros (-magnitude d - 1).toNat ++ digits

def scientific (d : Numeral) : List Char :=
  let e := magnitude d
  let mantissa :=
    match digitsOf d with
    | [] => []
    | [c] => [c]
    | c :: cs => c :: '.' :: cs
  mantissa ++ ['e', if e < 0 then '-' else '+'] ++ Nat.toDigits 10 e.natAbs

def magnitudeText (l : Layout) (d : Double) : List Char :=
  if d.mantissa = 0 then l.whole ['0']
  else
    let s := shortest l.tie d
    if l.positional (magnitude s) then l.plain s else scientific s

def text (l : Layout) (d : Double) : String :=
  String.ofList (if d.isNegative then '-' :: l.magnitudeText d else l.magnitudeText d)

end Layout

end DiffView.Decimal
