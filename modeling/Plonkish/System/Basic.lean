import Plonkish.Config.Basic
import Plonkish.Gate.Row
import Plonkish.Matrix.Basic

/-!
# Systems of constraints

A `System` is a circuit under construction: its rows, its public bindings and,
until they are taken out, the values of its variables.  Variables and rows are
only ever appended.

Arguments are checked against a system before it is changed: `System.resolve`
finds the variable that an argument names and `System.read` its value.
-/

namespace Plonkish

/-- A row that takes a public input, and the variable it has to equal. -/
structure Binding where
  row : Nat
  boundVar : Nat
  deriving DecidableEq

/-- A variable that the circuit forces to be 0 or 1. -/
structure BoolVar where
  index : Nat
  deriving DecidableEq

/-- A variable together with its value. -/
structure Variable (F : BaseField) where
  index : Nat
  value : Element F
  deriving DecidableEq

/-- The index of the variable that an argument names, of as many as there are. -/
def resolveIndex (numVars : Nat) (role : IndexRole) (index : Value) : Except CircuitError Nat :=
  match index.index? with
  | none => .error (.index (.notAnIndex role index.display))
  | some number =>
    if 0 ≤ number ∧ number < numVars then .ok number.toNat
    else .error (.index (.variableOutOfBound role index.display numVars))

/-- Refuses additions outside the building phase. -/
def Phase.checkBuilding (phase : Phase) : Except CircuitError Unit :=
  if phase = .building then .ok ()
  else .error (.tooLate (.additionsClosed phase))

/-- A circuit under construction. -/
structure System (F : BaseField) where
  quotient : QuotientDomain := {}
  rows : List (Row F) := []
  numVars : Nat := 0
  bindings : List Binding := []
  /-- The values of the variables, none after they were taken out. -/
  witness : List (Element F) := []
  zeroVar? : Option Nat := none
  oneVar? : Option Nat := none
  phase : Phase := .building
  deriving DecidableEq

namespace System

variable {F : BaseField}

def size (system : System F) : Nat :=
  system.rows.length

def quotientDomain (system : System F) : Except CircuitError Int :=
  system.quotient.size (.ofNat system.size)

/-- The variable on every wire, one column for each wire. -/
def wiring (system : System F) : List (List Nat) :=
  [system.rows.map (·.wires.w1), system.rows.map (·.wires.w2), system.rows.map (·.wires.w3),
    system.rows.map (·.wires.w4), system.rows.map (·.wires.wo)]

/-- The value of every selector, one column for each selector. -/
def selectorColumns (system : System F) : List (List (Element F)) :=
  let column (entry : Selectors (Element F) → Element F) :=
    system.rows.map fun row => entry row.selectors
  [column (·.q1), column (·.q2), column (·.q3), column (·.q4),
    column (·.qm1), column (·.qm2), column (·.qc), column (·.qecc),
    column (·.qh1), column (·.qh2), column (·.qh3), column (·.qh4), column (·.qo)]

def matrix (system : System F) : ConstraintMatrix F where
  size := system.size
  numVars := system.numVars
  wiring := system.wiring.map (·.map Int.ofNat)
  selectors := system.selectorColumns.map (·.map Value.element)
  bindingRows := system.bindings.map (Int.ofNat ·.row)
  bindingVars := system.bindings.map (Int.ofNat ·.boundVar)
  quotientDomain := system.quotientDomain
  indexBound := max wordBound system.numVars

/-- The selector column that an argument names. -/
def selectorColumn (system : System F) (index : Value) :
    Except CircuitError (List (Element F)) := do
  unless ← index.inBounds Selectors.count do
    throw (.parameter (.selectorIndex index.display))
  entryAt system.selectorColumns (← index.toNumber)

def variableAt (system : System F) (wire row : Value) : Except CircuitError Nat := do
  unless ← wire.inBounds Wires.count do
    throw (.index (.wireSlot wire.display))
  unless ← row.inBounds system.size do
    throw (.index (.row row.display system.size))
  entryAt (← entryAt system.wiring (← wire.toNumber)) (← row.toNumber)

def resolve (system : System F) (role : IndexRole) (index : Value) : Except CircuitError Nat :=
  resolveIndex system.numVars role index

/-- The variable that an argument names, with its value.  Values are gone once
the witness was taken out. -/
def read (system : System F) (index : Value) : Except CircuitError (Variable F) := do
  if system.phase = .proving then throw (.tooLate .witnessCleared)
  let found ← system.resolve .operand index
  return ⟨found, system.witness.getD found 0⟩

def checkBuilding (system : System F) : Except CircuitError Unit :=
  system.phase.checkBuilding

theorem checkBuilding_eq_ok_iff {system : System F} {granted : Unit} :
    system.checkBuilding = .ok granted ↔ system.phase = .building := by
  unfold checkBuilding Phase.checkBuilding
  split <;> simp_all

theorem resolve_lt {system : System F} {role : IndexRole} {index : Value} {found : Nat}
    (h : system.resolve role index = .ok found) : found < system.numVars := by
  unfold resolve resolveIndex at h
  split at h
  · contradiction
  · split at h
    · cases h; omega
    · contradiction

end System

end Plonkish
