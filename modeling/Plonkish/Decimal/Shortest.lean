import Plonkish.Decimal.Binary64

/-!
# Shortest decimals

A number in double precision is written with the fewest digits from which it is
read back, and with those nearest to it where there are several.  Below `10^16`
and from `10^-4` on the text is positional; otherwise it has an exponent.
-/

namespace Plonkish

namespace Binary64

/-- A positive number with its neighbourhood, all in units of a power of ten. -/
structure Neighbourhood where
  exponent : Int
  value : Nat
  /-- Four times the point halfway to the number below. -/
  lower : Nat
  /-- Four times the point halfway to the number above. -/
  upper : Nat
  /-- Whether the halfway points themselves are rounded to the number. -/
  closed : Bool

/-- The neighbourhood of a positive number.  Since `2^-k` is `5^k * 10^-k`, the
number is a natural number of units.  The number below a power of two is twice as
near as the one above. -/
def neighbourhood (significand : Nat) (exponent : Int) : Neighbourhood where
  exponent := min exponent 0
  value := significand * unit
  lower := (4 * significand - if narrow then 1 else 2) * unit
  upper := (4 * significand + 2) * unit
  closed := significand % 2 = 0
where
  unit : Nat := Nat.pow 2 exponent.toNat * Nat.pow 5 (-exponent).toNat
  /-- Whether the number below has a smaller exponent. -/
  narrow : Bool := significand = Nat.pow 2 (precision - 1) && exponent > minExponent

namespace Neighbourhood

def contains (near : Neighbourhood) (units : Nat) : Bool :=
  if near.closed then near.lower ≤ 4 * units && 4 * units ≤ near.upper
  else near.lower < 4 * units && 4 * units < near.upper

/-- The multiple of a step that is nearest to the number and rounded to it, if
there is one. -/
def onGrid? (near : Neighbourhood) (step : Nat) : Option Nat :=
  let below := near.value / step * step
  let above := below + step
  match near.contains below, near.contains above with
  | true, true =>
    let toBelow := near.value - below
    let toAbove := above - near.value
    if toBelow < toAbove || (toBelow = toAbove && below / step % 2 = 0) then some below
    else some above
  | true, false => some below
  | false, true => some above
  | false, false => none

/-- The number of units with the fewest digits that is rounded to the number.  The
number itself is on the finest grid. -/
def shortest (near : Neighbourhood) : Nat :=
  let length := (Nat.toDigits 10 near.value).length
  let grids := (List.range length).reverse.map (Nat.pow 10)
  (grids.findSome? near.onGrid?).getD near.value

end Neighbourhood

/-- The text of a positive decimal: its digits without leading and trailing zeros,
and how many of them stand before the point. -/
def decimalText (digits : List Char) (point : Int) : String :=
  let zeros (count : Int) : List Char := List.replicate count.toNat '0'
  if -4 < point ∧ point ≤ 16 then
    let whole := digits.take point.toNat ++ zeros (point - digits.length)
    let fraction := zeros (-point) ++ digits.drop point.toNat
    let orZero (part : List Char) : String := if part.isEmpty then "0" else String.ofList part
    s!"{orZero whole}.{orZero fraction}"
  else
    let mantissa := match digits with
      | first :: second :: rest => first :: '.' :: second :: rest
      | digits => digits
    let exponent := (Nat.toDigits 10 (point - 1).natAbs)
    let sign := if point ≤ 0 then '-' else '+'
    String.ofList (mantissa ++ 'e' :: sign :: zeros (2 - exponent.length) ++ exponent)

def text : Binary64 → String
  | infinite => "inf"
  | finite 0 _ => "0.0"
  | finite significand exponent =>
    let near := neighbourhood significand exponent
    let digits := Nat.toDigits 10 near.shortest
    let significant := (digits.reverse.dropWhile (· = '0')).reverse
    decimalText significant (digits.length + near.exponent)

end Binary64

end Plonkish
