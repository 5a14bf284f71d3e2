import Plonkish.Gate.Basic
import Plonkish.Memory
import Plonkish.Value

/-!
# Constraint matrices

A proof needs to know a circuit only as a matrix: the variable on every wire of
every row, the selectors of every row, and the variables that are bound to
public inputs.  A `ConstraintMatrix` holds these columns as they are given; it
may come from a system of constraints or be made by hand, and then its columns
and the declared numbers need not fit together.

An index of a variable or a row may be negative; it then counts back from the
end.
-/

namespace Plonkish

/-- The position in a list of the given length that an index points to. -/
def position? (length : Nat) (index : Int) : Option Nat :=
  if 0 ≤ index then
    if index.toNat < length then some index.toNat else none
  else if (-index).toNat ≤ length then some (length - (-index).toNat) else none

theorem position?_lt {length position : Nat} {index : Int}
    (h : position? length index = some position) : position < length := by
  grind [position?]

def entryAt {α : Type} (entries : List α) (index : Int) : Except CircuitError α :=
  match (position? entries.length index).bind (entries[·]?) with
  | some entry => .ok entry
  | none => .error (.input .missingEntry)

/-- A circuit as columns. -/
structure ConstraintMatrix (F : BaseField) where
  /-- The number of rows, as declared. -/
  size : Int
  numVars : Int
  wiring : List (List Int)
  selectors : List (List Value)
  bindingRows : List Int
  bindingVars : List Int
  /-- The size of the quotient domain, if there is one. -/
  quotientDomain : Except CircuitError Int
  /-- A bound for the indices that a shape holds. -/
  indexBound : Int := wordBound

/-- A snapshot of a matrix for a proof, free of the witness. -/
structure Shape where
  size : Int
  numVars : Int
  wireCount : Nat
  selectorCount : Nat
  maxDegree : Nat
  quotientDomain : Int
  wiring : List (List Int)
  /-- The selector columns, as canonical residues. -/
  selectors : List (List Nat)
  bindingRows : List Int
  bindingVars : List Int
  deriving DecidableEq

namespace ConstraintMatrix

variable {F : BaseField}

def selectorColumns (matrix : ConstraintMatrix F) : Except CircuitError (List (List (Element F))) :=
  matrix.selectors.mapM (Value.toColumn F)

/-- Refuses wire columns of different lengths, and entries that are not between
`-2^63` and a bound, the bound excluded. -/
def checkWiring (matrix : ConstraintMatrix F) (bound : Int) : Except CircuitError Unit := do
  unless matrix.wiring.all (fun column => column.length == (matrix.wiring.headD []).length) do
    throw (.input .lengthMismatch)
  unless matrix.wiring.all (·.all fun entry => -wordBound ≤ entry && entry < bound) do
    throw (.input .indexTooLarge)

/-- Whether wire columns of one length are as long as the declared number of rows.
A negative number of rows stands for whatever length the columns have. -/
def hasDeclaredSize (matrix : ConstraintMatrix F) : Bool :=
  match matrix.wiring with
  | [] => 0 ≤ matrix.size && matrix.size < lengthBound
  | column :: _ => column.length = matrix.size || -wordBound ≤ matrix.size && matrix.size < 0

/-- The shape of the matrix.  There is none without a quotient domain, or if a
wire column does not have one entry per row. -/
def shape (matrix : ConstraintMatrix F) : Except CircuitError Shape := do
  let quotientDomain ← matrix.quotientDomain
  matrix.checkWiring matrix.indexBound
  unless matrix.hasDeclaredSize do
    throw (.input .lengthMismatch)
  let selectors ← matrix.selectorColumns
  return {
    size := matrix.size
    numVars := matrix.numVars
    wireCount := matrix.wiring.length
    selectorCount := matrix.selectors.length
    maxDegree := Gate.maxDegree
    quotientDomain
    wiring := matrix.wiring
    selectors := selectors.map (·.map Element.val)
    bindingRows := matrix.bindingRows
    bindingVars := matrix.bindingVars
  }

/-- The values in a witness, one for each variable, and in a list of public inputs,
one for each binding.  Other numbers of values are refused. -/
def givenValues (matrix : ConstraintMatrix F) (witness publicInputs : Value) :
    Except CircuitError (List Value × List Value) := do
  let witness ← witness.entries
  unless witness.length = matrix.numVars do
    throw (.rejected (.witnessLength matrix.numVars witness.length))
  let publicInputs ← publicInputs.entries
  unless publicInputs.length = matrix.bindingVars.length
      ∧ publicInputs.length = matrix.bindingRows.length do
    throw (.rejected (.publicInputCount matrix.bindingVars.length publicInputs.length))
  return (witness, publicInputs)

end ConstraintMatrix

end Plonkish
