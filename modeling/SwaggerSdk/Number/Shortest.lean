import SwaggerSdk.Number.Binary64

/-!
# The shortest decimal of a binary number

The decimal with the fewest digits among those that round to a given magnitude, and of these the nearest
one. The grids of powers of ten are searched from the coarsest on; on each of them only the two
neighbours of the magnitude can round to it if any point does.
-/

namespace SwaggerSdk

/-- The decimal `digits · 10^exponent`. -/
structure Decimal where
  digits : Nat
  exponent : Int
  deriving DecidableEq, Repr, Inhabited

namespace Binary64

/-- A quarter of the gap above the magnitude, as the unit in which its interval is given. -/
def quarterExponent (x : Binary64) : Int := x.exponent - 2

/-- Below a power of two the neighbours are half as far away. -/
def hasNarrowGapBelow (x : Binary64) : Bool :=
  x.significand == Nat.pow 2 52 && leastExponent < x.exponent

/-- Whether the decimal rounds to the magnitude: it lies in the interval between the midpoints to the
neighbours, whose ends belong to it if the significand is even. -/
def isNearest (x : Binary64) (decimal : Decimal) : Bool :=
  let unit := Nat.pow 2 x.quarterExponent.toNat * Nat.pow 10 (-decimal.exponent).toNat
  let scaled := decimal.digits * Nat.pow 10 decimal.exponent.toNat * Nat.pow 2 (-x.quarterExponent).toNat
  let low := (4 * x.significand - if x.hasNarrowGapBelow then 1 else 2) * unit
  let high := (4 * x.significand + 2) * unit
  if x.significand % 2 == 0 then low ≤ scaled && scaled ≤ high else low < scaled && scaled < high

/-- The decimal of the grid `10^exponent` that rounds to the magnitude: the nearer of the two neighbours,
and of two equally near the even one. -/
def onGrid? (x : Binary64) (exponent : Int) : Option Decimal :=
  let num := x.numerator * Nat.pow 10 (-exponent).toNat
  let den := x.denominator * Nat.pow 10 exponent.toNat
  let near := roundQuotient num den
  let far := if near == num / den then near + 1 else num / den
  [near, far].findSome? fun digits =>
    if digits != 0 && x.isNearest ⟨digits, exponent⟩ then some ⟨digits, exponent⟩ else none

/-- The shortest decimal of a magnitude that is not zero; zero has none on any grid. -/
def shortest (x : Binary64) : Decimal :=
  ((List.range 653).findSome? fun (n : Nat) => x.onGrid? (309 - n)).getD ⟨0, 0⟩

end Binary64

end SwaggerSdk
