import Plonkish.System.Builder

/-!
# Variables computed from others

These gadgets append a variable whose value is computed from the values of
others, together with the row that forces it to be that value.  The control
variable of a selection is not forced to be 0 or 1; a caller for whom this
matters passes a `BoolVar`.
-/

namespace Plonkish

namespace Emit

variable {F : BaseField}

def linearCombination (w1 w2 w3 w4 : Variable F) (q1 q2 q3 q4 : Element F) :
    Emit F (Variable F) := do
  let output ← addVariable
    (q1 * w1.value + q2 * w2.value + q3 * w3.value + q4 * w4.value)
  let _ ← addRow (.linear w1.index w2.index w3.index w4.index output.index q1 q2 q3 q4)
  return output

def sum (left right : Variable F) : Emit F (Variable F) := do
  let output ← addVariable (left.value + right.value)
  let _ ← addRow (.sum left.index right.index output.index)
  return output

def difference (left right : Variable F) : Emit F (Variable F) := do
  let output ← addVariable (left.value - right.value)
  let _ ← addRow (.difference left.index right.index output.index)
  return output

def product (left right : Variable F) : Emit F (Variable F) := do
  let output ← addVariable (left.value * right.value)
  let _ ← addRow (.product left.index right.index output.index)
  return output

/-- Appends a variable that is `var0` where `bit` is 0 and `var1` where it is 1. -/
def selection (bit var0 var1 : Variable F) : Emit F (Variable F) := do
  let output ← addVariable (var0.value + bit.value * (var1.value - var0.value))
  let _ ← addRow (.selection bit.index var0.index var1.index output.index)
  return output

end Emit

namespace Builder

variable {F : BaseField}

open Checked (element entries)

def linearCombine (inputs q1 q2 q3 q4 : Value) : Builder F Nat := do
  match ← entries inputs with
  | [w1, w2, w3, w4] =>
    let q1 ← element q1
    let q2 ← element q2
    let q3 ← element q3
    let q4 ← element q4
    let w1 ← read w1
    let w2 ← read w2
    let w3 ← read w3
    let w4 ← read w4
    ensureBuilding
    return (← emit (.linearCombination w1 w2 w3 w4 q1 q2 q3 q4)).index
  | inputs => throw (.parameter (.inputCount inputs.length))

/-- Adds a variable that is computed from two others. -/
def combine (gadget : Variable F → Variable F → Emit F (Variable F)) (left right : Value) :
    Builder F Nat := do
  let left ← read left
  let right ← read right
  ensureBuilding
  return (← emit (gadget left right)).index

def add (left right : Value) : Builder F Nat :=
  combine .sum left right

def sub (left right : Value) : Builder F Nat :=
  combine .difference left right

def mul (left right : Value) : Builder F Nat :=
  combine .product left right

def select (var0 var1 bit : Value) : Builder F Nat := do
  let bit ← read bit
  let var0 ← read var0
  let var1 ← read var1
  ensureBuilding
  return (← emit (.selection bit var0 var1)).index

end Builder

end Plonkish
