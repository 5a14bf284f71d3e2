import Plonkish.Matrix.Basic

/-!
# Verification row by row

`ConstraintMatrix.verify` checks a witness against every row in increasing order
and reports the first row that fails.  At a row that takes a public input the
input has to equal the value of the variable bound to it and enters the gate
equation as the public value; at every other row the public value is zero.
-/

namespace Plonkish

/-- A public input together with the row that takes it and the variable bound
there. -/
structure PublicBinding (F : BaseField) where
  row : Int
  boundVar : Int
  value : Element F

namespace ConstraintMatrix

variable {F : BaseField}

def publicBindings (matrix : ConstraintMatrix F) (publicInputs : List (Element F)) :
    List (PublicBinding F) :=
  List.zipWith (fun place value => ⟨place.1, place.2, value⟩)
    (matrix.bindingRows.zip matrix.bindingVars) publicInputs

/-- The public value of a row: the last input bound there, or zero.  Every input
bound there is compared with the value of its variable. -/
def publicValueAt (witness : List (Element F)) (bindings : List (PublicBinding F)) (row : Nat) :
    Except CircuitError (Element F) :=
  bindings.foldlM
    (fun current binding => do
      if binding.row = (row : Int) then
        let actual ← entryAt witness binding.boundVar
        unless actual = binding.value do
          throw (.rejected
            (.publicInputMismatch row binding.boundVar binding.value.val actual.val))
        return binding.value
      else return current) 0

def checkRow (matrix : ConstraintMatrix F) (selectors : List (List (Element F)))
    (witness : List (Element F)) (bindings : List (PublicBinding F)) (row : Nat) :
    Except CircuitError Unit := do
  let publicValue ← publicValueAt witness bindings row
  let wires ← matrix.wiring.mapM fun column => do entryAt witness (← entryAt column row)
  let sels ← selectors.mapM fun column => entryAt column row
  let residual ← Gate.residualOfLists wires sels publicValue
  unless residual = 0 do
    throw (.rejected (.unsatisfiedGate row (wires.map Element.val) (sels.map Element.val)
      residual.val))

/-- Checks `count` rows in increasing order, the first of which is given. -/
def checkRows (matrix : ConstraintMatrix F) (selectors : List (List (Element F)))
    (witness : List (Element F)) (bindings : List (PublicBinding F)) :
    Nat → Nat → Except CircuitError Unit
  | _, 0 => .ok ()
  | row, count + 1 => do
    matrix.checkRow selectors witness bindings row
    checkRows matrix selectors witness bindings (row + 1) count

theorem checkRows_eq_forM (matrix : ConstraintMatrix F) (selectors : List (List (Element F)))
    (witness : List (Element F)) (bindings : List (PublicBinding F)) (row count : Nat) :
    matrix.checkRows selectors witness bindings row count =
      (List.range' row count).forM (matrix.checkRow selectors witness bindings) := by
  induction count generalizing row with
  | zero => rfl
  | succ count ih =>
    simp only [checkRows, ih, List.range'_succ]
    rfl

/-- Checks a witness and public inputs against the matrix. -/
def verify (matrix : ConstraintMatrix F) (witness publicInputs : Value) :
    Except CircuitError Unit := do
  let (witness, publicInputs) ← matrix.givenValues witness publicInputs
  let witness ← Value.toColumn F witness
  let publicInputs ← Value.toColumn F publicInputs
  let selectors ← matrix.selectorColumns
  let bindings := matrix.publicBindings publicInputs
  matrix.checkRows selectors witness bindings 0 matrix.size.toNat

end ConstraintMatrix

end Plonkish
