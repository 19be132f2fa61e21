import DiffView.Decimal.Double

namespace DiffView.Decimal

structure Numeral where
  digits : Nat
  exponent : Int
  deriving DecidableEq, Repr

inductive Tie
  | toEven
  | up
  deriving DecidableEq, Repr

/-- A positive number with the closed or open interval of the reals that round to it. All three
numbers count units of `2 ^ unit`. -/
structure Neighborhood where
  low : Nat
  center : Nat
  high : Nat
  unit : Int
  closed : Bool
  deriving DecidableEq, Repr

/-- The lower gap is half as wide where the mantissa is the least of its binade. -/
def neighborhood (d : Double) : Neighborhood :=
  let m := d.mantissa
  let narrow := d.fractionField = 0 ∧ 1 < d.exponentField
  { low := if narrow then 4 * m - 1 else 4 * m - 2
    center := 4 * m
    high := 4 * m + 2
    unit := d.exponent - 2
    closed := m % 2 = 0 }

namespace Neighborhood

def unitScale (n : Neighborhood) (k : Int) : Nat := Nat.pow 2 n.unit.toNat * Nat.pow 10 (-k).toNat

def stepScale (n : Neighborhood) (k : Int) : Nat := Nat.pow 10 k.toNat * Nat.pow 2 (-n.unit).toNat

def holds (n : Neighborhood) (k : Int) (digits : Nat) : Bool :=
  let x := digits * n.stepScale k
  let low := n.low * n.unitScale k
  let high := n.high * n.unitScale k
  if n.closed then low ≤ x && x ≤ high else low < x && x < high

def onGrid? (n : Neighborhood) (tie : Tie) (k : Int) : Option Numeral :=
  let c := n.center * n.unitScale k
  let s := n.stepScale k
  let below := c / s
  let above := below + 1
  let near :=
    match compare (c - below * s) (above * s - c) with
    | .lt => below
    | .gt => above
    | .eq => match tie with
      | .toEven => if below % 2 = 0 then below else above
      | .up => above
  let far := if near = below then above else below
  if n.holds k near then some ⟨near, k⟩
  else if n.holds k far then some ⟨far, k⟩
  else none

def coarsest (n : Neighborhood) : Int := (n.high.log2 + 1 + n.unit) * 30103 / 100000 + 1

end Neighborhood

/-- The shortest decimal of a positive finite double. Seventeen digits always suffice, and the first
grids may be too coarse for any. -/
def shortest (tie : Tie) (d : Double) : Numeral :=
  let n := neighborhood d
  ((List.range 21).findSome? fun i : Nat => n.onGrid? tie (n.coarsest - (i : Int))).getD ⟨0, 0⟩

end DiffView.Decimal
