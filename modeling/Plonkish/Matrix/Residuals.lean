import Plonkish.Gate.Column
import Plonkish.Matrix.Basic

/-!
# Residuals of all rows

`ConstraintMatrix.residuals` evaluates the gate equation at all rows at once, on
columns.  Public inputs enter as public values but are not compared with the
witness.
-/

namespace Plonkish

namespace ConstraintMatrix

variable {F : BaseField}

/-- A zero for every row.  The column is refused if it is too long for memory, as no
column is that the matrix already holds. -/
def zeroColumn (matrix : ConstraintMatrix F) : Except CircuitError (List (Element F)) := do
  let present : Int := (matrix.wiring.headD []).length
  unless 0 ≤ matrix.size ∧ (matrix.size ≤ present ∨ matrix.size < lengthBound) do
    throw (.input (.impossibleLength matrix.size))
  unless matrix.size ≤ present ∨ matrix.size ≤ memoryLimit do
    throw (.input (.outOfMemory matrix.size))
  return List.replicate matrix.size.toNat 0

/-- Why a public value is refused whose row is not there.  A row that fits into 64
bits only without a sign is too large for an index, any other one is missing. -/
def refusedRow (row : Int) : CircuitError :=
  if wordBound ≤ row && row < 2 * wordBound then .input .indexTooLarge else .input .missingEntry

/-- The column of public values: zero, overwritten by the public inputs in the
order of their bindings. -/
def publicColumn (matrix : ConstraintMatrix F) (publicInputs : List Value) :
    Except CircuitError (List (Element F)) := do
  (matrix.bindingRows.zip publicInputs).foldlM
    (fun column (row, input) => do
      let value ← input.toElement F
      match position? column.length row with
      | some position => return column.set position value
      | none => throw (refusedRow row))
    (← matrix.zeroColumn)

def wireValues (matrix : ConstraintMatrix F) (witness : List (Element F)) :
    Except CircuitError (List (List (Element F))) := do
  matrix.checkWiring (max matrix.indexBound matrix.numVars)
  matrix.wiring.mapM fun column => column.mapM (entryAt witness)

/-- The left-hand side of the gate equation at every row.  A matrix without rows
has none, whatever the witness. -/
def residuals (matrix : ConstraintMatrix F) (witness publicInputs : Value) :
    Except CircuitError (List (Element F)) := do
  let (witness, publicInputs) ← matrix.givenValues witness publicInputs
  if matrix.size = 0 then return []
  let witness ← Value.toColumn F witness
  let wires ← matrix.wireValues witness
  let selectors ← matrix.selectorColumns
  let publicValues ← matrix.publicColumn publicInputs
  let residuals ← Gate.evaluateLists (wires.map .column) (selectors.map .column)
    (.column publicValues)
  return residuals.entries

def unsatisfiedRows (matrix : ConstraintMatrix F) (witness publicInputs : Value) :
    Except CircuitError (List Nat) := do
  let residuals ← matrix.residuals witness publicInputs
  return (residuals.zipIdx.filter fun (residual, _) => residual ≠ 0).map Prod.snd

end ConstraintMatrix

end Plonkish
