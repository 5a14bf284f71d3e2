import Plonkish.Gadget.Arithmetic

/-!
# A formula in secret and public inputs

A padded circuit for `(x0 + y0) * (x1 + 4) + x0 * y1`, in which `y0` and `y1` are
public inputs.  The number 4 is a variable fixed by a row.
-/

namespace Plonkish

structure OnlineValue where
  /-- The secret inputs. -/
  x : Value := .list [.int 1, .int 3]
  /-- The public inputs. -/
  y : Value := .list [.int 2, .int 4]

namespace OnlineValue

variable {F : BaseField}

/-- Builds the circuit and gives its public inputs as they were given. -/
def build (circuit : OnlineValue) : Builder F (List Value) := do
  let input (inputs : Value) (position : Nat) : Builder F Value :=
    Checked.ofExcept (inputs.entry position)
  let x0 ← input circuit.x 0
  let y0 ← input circuit.y 0
  let x1 ← input circuit.x 1
  let x0Var ← Builder.newVariable x0
  let y0Var ← Builder.newVariable y0
  let x1Var ← Builder.newVariable x1
  let four ← Builder.newVariable (.int 4)
  let s0 ← Builder.add (.ofNat x0Var) (.ofNat y0Var)
  let s1 ← Builder.add (.ofNat x1Var) (.ofNat four)
  let p0 ← Builder.mul (.ofNat s0) (.ofNat s1)
  let y1 ← input circuit.y 1
  let y1Var ← Builder.newVariable y1
  let p1 ← Builder.mul (.ofNat x0Var) (.ofNat y1Var)
  let _ ← Builder.add (.ofNat p0) (.ofNat p1)
  let _ ← Builder.insertConstantGate (.ofNat four) (.int 4)
  let _ ← Builder.preparePublicInput (.ofNat y0Var)
  let _ ← Builder.preparePublicInput (.ofNat y1Var)
  Builder.pad
  return [y0, y1]

end OnlineValue

end Plonkish
