import Plonkish.Proofs.Operation.Stepwise
import Plonkish.Proofs.System.Completion

/-!
# Columns of a system that grows

Whatever a system grows by, the columns of the grown system are those of the old one with
entries at their ends.
-/

namespace Plonkish

variable {F : BaseField}

namespace System

variable (system : System F)

@[simp]
theorem phase_columns : system.columns.phase = system.phase := rfl

@[simp]
theorem numVars_columns : system.columns.numVars = system.numVars := rfl

theorem columns_grow_values (values : List (Element F)) :
    (system.grow values []).columns =
      { system.columns with
        witness := system.witness ++ values
        numVars := system.numVars + values.length } := by
  simp [columns, grow, wiring, selectorColumns, size]

/-- A row is an entry at the end of each column. -/
theorem columns_grow_row (row : Row F) :
    (system.grow [] [row]).columns =
      { system.columns with
        selectors := appendEntries system.selectorColumns row.selectors.toList
        wiring := appendEntries system.wiring row.wires.toList
        size := system.size + 1 } := by
  simp [columns, grow, wiring, selectorColumns, size, appendEntries, Wires.toList,
    Selectors.toList]

theorem columns_bindPublic (index : Nat) :
    (system.bindPublic index).columns =
      { (system.grow [] [.constant index 0]).columns with
        bindingRows := system.columns.bindingRows ++ [system.size]
        bindingVars := system.columns.bindingVars ++ [index] } := by
  simp [columns, bindPublic, grow, wiring, selectorColumns, size]

theorem columns_remember (index : Nat) (constant : Reserved) :
    (system.remember index constant).columns = system.columns.remember index constant := by
  cases constant <;> rfl

theorem reserved?_columns (constant : Reserved) :
    system.columns.reserved? constant = system.reserved? constant := by
  cases constant <;> rfl

/-- Padding rows are zeros at the end of each column. -/
theorem columns_grow_padding (count : Nat) :
    (system.grow [] (List.replicate count .padding)).columns =
      { system.columns with
        selectors := system.selectorColumns.map (· ++ List.replicate count 0)
        wiring := system.wiring.map (· ++ List.replicate count 0)
        size := system.size + count } := by
  simp [columns, grow, wiring, selectorColumns, size, Row.padding, Wires.replicate,
    Selectors.zero]

end System

end Plonkish
