/-!
# Binary numbers of 53 bits

The magnitudes that double precision holds: at most 53 significant bits above 2^-1074. A quotient of
naturals is rounded to the nearest of them, a tie to the even significand, in exact arithmetic.
-/

namespace SwaggerSdk

/-- The magnitude `significand · 2^exponent`. -/
structure Binary64 where
  significand : Nat
  exponent : Int
  deriving DecidableEq, Repr, Inhabited

namespace Binary64

def leastExponent : Int := -1074

def roundQuotient (numerator denominator : Nat) : Nat :=
  let floor := numerator / denominator
  let twice := 2 * (numerator % denominator)
  if twice < denominator || (twice == denominator && floor % 2 == 0) then floor else floor + 1

/-- The exponent of the significand that a quotient is rounded to: it leaves 53 bits, or fewer next to
zero. -/
def exponentFor (numerator denominator : Nat) : Int :=
  -- the difference of the logarithms is the logarithm of the quotient, or one more
  let estimate : Int := (numerator.log2 : Int) - denominator.log2
  let reached := numerator * Nat.pow 2 (-estimate).toNat ≥ denominator * Nat.pow 2 estimate.toNat
  max leastExponent ((if reached then estimate else estimate - 1) - 52)

def ofQuotient (numerator denominator : Nat) : Binary64 :=
  if numerator = 0 then ⟨0, leastExponent⟩
  else
    let exponent := exponentFor numerator denominator
    let rounded := roundQuotient (numerator * Nat.pow 2 (-exponent).toNat) (denominator * Nat.pow 2 exponent.toNat)
    -- rounding up may reach the next power of two
    if rounded = Nat.pow 2 53 then ⟨Nat.pow 2 52, exponent + 1⟩ else ⟨rounded, exponent⟩

def numerator (x : Binary64) : Nat := x.significand * Nat.pow 2 x.exponent.toNat

def denominator (x : Binary64) : Nat := Nat.pow 2 (-x.exponent).toNat

def ofNat (n : Nat) : Binary64 := ofQuotient n 1

def mul (x y : Binary64) : Binary64 :=
  ofQuotient (x.numerator * y.numerator) (x.denominator * y.denominator)

def div (x y : Binary64) : Binary64 :=
  ofQuotient (x.numerator * y.denominator) (x.denominator * y.numerator)

def isFinite (x : Binary64) : Bool := x.exponent ≤ 971

def isZero (x : Binary64) : Bool := x.significand == 0

end Binary64

end SwaggerSdk
