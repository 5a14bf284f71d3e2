/-!
# Numbers in double precision

A nonnegative number in double precision is `m * 2^q` for a significand `m` below
`2^53` and an exponent `q` between `-1074` and `971`, or infinite.  A decimal is
rounded to the nearest of these numbers, and to the one with the even
significand where two are equally near.
-/

namespace Plonkish

/-- A nonnegative number in double precision. -/
inductive Binary64 where
  /-- The number `significand * 2^exponent`. -/
  | finite (significand : Nat) (exponent : Int)
  | infinite
  deriving DecidableEq

namespace Binary64

def precision : Nat := 53

def minExponent : Int := -1074

def maxExponent : Int := 971

/-- The quotient of two numbers, rounded to the nearest natural number and to the
even one where two are equally near. -/
def roundQuotient (numerator denominator : Nat) : Nat :=
  let quotient := numerator / denominator
  let rest := 2 * (numerator % denominator)
  if rest < denominator || (rest = denominator && quotient % 2 = 0) then quotient
  else quotient + 1

/-- The quotient of two numbers divided by `2^exponent`, rounded. -/
def scaledQuotient (numerator denominator : Nat) (exponent : Int) : Nat :=
  roundQuotient (numerator * Nat.pow 2 (-exponent).toNat) (denominator * Nat.pow 2 exponent.toNat)

/-- The number for a significand of at most `2^53`, which that bound itself is
halved for. -/
def normalize (significand : Nat) (exponent : Int) : Binary64 :=
  let carried := significand = Nat.pow 2 precision
  let exponent := if carried then exponent + 1 else exponent
  if exponent > maxExponent then infinite
  else finite (if carried then significand / 2 else significand) exponent

/-- The exponent at which a positive quotient of two numbers has a significand of
full precision, unless the least exponent is greater. -/
def exponentOf (numerator denominator : Nat) : Int :=
  let estimate : Int := numerator.log2 - denominator.log2
  let reached :=
    numerator * Nat.pow 2 (-estimate).toNat ≥ denominator * Nat.pow 2 estimate.toNat
  let binade := if reached then estimate else estimate - 1
  max (binade - (precision - 1)) minExponent

def ofQuotient (numerator denominator : Nat) : Binary64 :=
  if numerator = 0 then finite 0 minExponent
  else
    let exponent := exponentOf numerator denominator
    normalize (scaledQuotient numerator denominator exponent) exponent

/-- A bound for decimal exponents: `10^400` is infinite and `10^-400` is zero. -/
def decimalBound : Int := 400

/-- The number nearest to `coefficient * 10^exponent`, where the coefficient has at
most the given number of digits. -/
def ofDecimal (coefficient digitCount : Nat) (exponent : Int) : Binary64 :=
  if coefficient = 0 || digitCount + exponent < -decimalBound then finite 0 minExponent
  else if exponent > decimalBound then infinite
  else ofQuotient (coefficient * Nat.pow 10 exponent.toNat) (Nat.pow 10 (-exponent).toNat)

end Binary64

end Plonkish
