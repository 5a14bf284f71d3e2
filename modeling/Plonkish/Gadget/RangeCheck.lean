import Plonkish.Field.Encoding
import Plonkish.Gadget.Arithmetic

/-!
# Range checks

A variable is forced to be below `2^n` by writing it as `n` variables that are
each forced to be 0 or 1.  The binary digits are put together from the most
significant one downwards: a row takes up to three digits into an accumulator,
`8 acc + 4 b + 2 b' + b''`, and the last row, which takes the digits that remain,
has the checked variable itself as output.
-/

namespace Plonkish

namespace Emit

variable {F : BaseField}

/-- Puts binary digits together.  The accumulator holds the digits above the
given ones, of which there is at least one, the most significant first. -/
def recompose (checked : Nat) (accumulator : Variable F) : List (Variable F) → Emit F Unit
  | b3 :: b2 :: b1 :: b0 :: rest => do
    let next ← linearCombination accumulator b3 b2 b1 (.ofNat F 8) (.ofNat F 4) (.ofNat F 2) 1
    recompose checked next (b0 :: rest)
  | [b2, b1, b0] => do
    let _ ← addRow (.linear accumulator.index b2.index b1.index b0.index checked
      (.ofNat F 8) (.ofNat F 4) (.ofNat F 2) 1)
  | [b1, b0] => do
    let _ ← addRow (.linear accumulator.index b1.index b0.index 0 checked
      (.ofNat F 4) (.ofNat F 2) 1 0)
  | [b0] => do
    let _ ← addRow (.linear accumulator.index b0.index 0 0 checked (.ofNat F 2) 1 0 0)
  | [] => pure ()

/-- Adds variables for the binary digits of a variable, least significant first, and
forces the variable to be the number that they write. -/
def binaryDigits (checked : Nat) (values : List (Element F)) : Emit F (List BoolVar) := do
  let digits ← addVariables values
  digits.forM fun digit => do
    let _ ← addRow (.boolean digit.index)
  match digits.reverse with
  | top :: rest => recompose checked top rest
  | [] => pure ()
  return digits.map fun digit => ⟨digit.index⟩

end Emit

namespace Builder

variable {F : BaseField}

/-- Forces a variable to be below `2^count`, and gives its binary digits, least
significant first. -/
def rangeCheck (index count : Value) : Builder F (List BoolVar) := do
  if ← Checked.ofExcept (count.isBelow 2) then throw (.parameter (.bitCount count.display))
  let checked ← read index
  let number ← Checked.ofExcept count.toNumber
  let digits ← Checked.ofExcept (checked.value.toBits number)
  ensureBuilding
  emit (.binaryDigits checked.index digits)

end Builder

end Plonkish
