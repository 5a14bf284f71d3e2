/-!
# Decimal digits

The natural number that a run of decimal digits writes.  Integers are read and
written in decimal up to a fixed number of digits.
-/

namespace Plonkish

/-- The natural number written by decimal digits, the most significant first. -/
def natOfDigits (digits : List Char) : Nat :=
  digits.foldl (fun number digit => 10 * number + (digit.toNat - '0'.toNat)) 0

/-- The largest number of digits of an integer that is read or written. -/
def maxDigits : Nat := 4300

def isTooLong (number : Int) : Bool :=
  Nat.pow 10 maxDigits ≤ number.natAbs

end Plonkish
