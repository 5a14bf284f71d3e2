import Plonkish.System.Basic

/-!
# Systems as columns

The rows of a system can be stored column by column: a list for each wire and for each
selector, a counter of the rows, and the rows and the variables of the public bindings in
two lists.  Each of these is changed on its own, so that they fit together is not given by
the data.
-/

namespace Plonkish

/-- A circuit under construction, stored column by column. -/
structure Columns (F : BaseField) where
  quotient : QuotientDomain := {}
  /-- The variable on every wire, one column for each wire. -/
  wiring : List (List Nat) := List.replicate Wires.count []
  /-- The value of every selector, one column for each selector. -/
  selectors : List (List (Element F)) := List.replicate Selectors.count []
  /-- The number of rows, counted apart from the columns. -/
  size : Nat := 0
  numVars : Nat := 0
  /-- The rows that take a public input. -/
  bindingRows : List Nat := []
  /-- The variables that the public inputs have to equal. -/
  bindingVars : List Nat := []
  /-- The values of the variables, none after they were taken out. -/
  witness : List (Element F) := []
  zeroVar? : Option Nat := none
  oneVar? : Option Nat := none
  phase : Phase := .building
  deriving DecidableEq

/-- Appends to each column the entry in its place, as far as there are entries. -/
def appendEntries {α : Type} : List (List α) → List α → List (List α)
  | column :: columns, entry :: entries => (column ++ [entry]) :: appendEntries columns entries
  | columns, _ => columns

variable {F : BaseField}

namespace Columns

def empty (F : BaseField) (quotient : QuotientDomain) : Columns F :=
  { quotient }

/-- The circuit as a verifier reads it. -/
def matrix (columns : Columns F) : ConstraintMatrix F where
  size := columns.size
  numVars := columns.numVars
  wiring := columns.wiring.map (·.map Int.ofNat)
  selectors := columns.selectors.map (·.map Value.element)
  bindingRows := columns.bindingRows.map Int.ofNat
  bindingVars := columns.bindingVars.map Int.ofNat
  quotientDomain := columns.quotient.size (.ofNat columns.size)
  indexBound := max wordBound columns.numVars

end Columns

/-- A system, stored column by column. -/
def System.columns (system : System F) : Columns F where
  quotient := system.quotient
  wiring := system.wiring
  selectors := system.selectorColumns
  size := system.size
  numVars := system.numVars
  bindingRows := system.bindings.map (·.row)
  bindingVars := system.bindings.map (·.boundVar)
  witness := system.witness
  zeroVar? := system.zeroVar?
  oneVar? := system.oneVar?
  phase := system.phase

/-- A verifier reads the same from either form. -/
theorem System.matrix_columns (system : System F) : system.columns.matrix = system.matrix := by
  simp only [Columns.matrix, System.columns, System.matrix, List.map_map]
  rfl

end Plonkish
