import Plonkish.System.Basic

/-!
# Building a system

A `Builder` runs on a system and may be refused.  Every operation first checks all its
arguments and only then changes the system.  The changes themselves are `Emit`s, which cannot
be refused, so a refused operation leaves the system as it was.
-/

namespace Plonkish

/-- A program on a state that may be refused.  The state is there after a refusal, too. -/
abbrev Checked (σ : Type) := ExceptT CircuitError (StateM σ)

/-- A change of a system that is never refused. -/
abbrev Emit (F : BaseField) := StateM (System F)

/-- An operation on a system that may be refused. -/
abbrev Builder (F : BaseField) := Checked (System F)

namespace Checked

variable {σ : Type} {F : BaseField}

/-- Goes on with an answer, or is refused like it. -/
def ofExcept {α : Type} (answer : Except CircuitError α) : Checked σ α :=
  ExceptT.mk (pure answer)

def element (value : Value) : Checked σ (Element F) :=
  ofExcept (value.toElement F)

def entries (values : Value) : Checked σ (List Value) :=
  ofExcept values.entries

end Checked

namespace Emit

variable {F : BaseField}

def addVariable (value : Element F) : Emit F (Variable F) :=
  modifyGet fun system =>
    (⟨system.numVars, value⟩,
      { system with numVars := system.numVars + 1, witness := system.witness ++ [value] })

def addVariables (values : List (Element F)) : Emit F (List (Variable F)) :=
  values.mapM addVariable

def addRow (row : Row F) : Emit F Nat :=
  modifyGet fun system => (system.size, { system with rows := system.rows ++ [row] })

def addBinding (binding : Binding) : Emit F Unit :=
  modify fun system => { system with bindings := system.bindings ++ [binding] }

/-- The variable reserved for zero, which is added and fixed by a row on first use. -/
def reserveZero : Emit F (Variable F) := do
  match (← get).zeroVar? with
  | some index => return ⟨index, 0⟩
  | none =>
    let zero ← addVariable 0
    let _ ← addRow (.constant zero.index 0)
    modify fun system => { system with zeroVar? := some zero.index }
    return zero

def reserveOne : Emit F (Variable F) := do
  match (← get).oneVar? with
  | some index => return ⟨index, 1⟩
  | none =>
    let one ← addVariable 1
    let _ ← addRow (.constant one.index 1)
    modify fun system => { system with oneVar? := some one.index }
    return one

/-- Appends rows that hold for every witness until there are `size` rows, and
ends the building phase. -/
def padTo (size : Nat) : Emit F Unit :=
  modify fun system =>
    { system with
      rows := system.rows ++ List.replicate (size - system.size) .padding
      phase := .padded }

def takeWitness : Emit F (List (Element F)) :=
  modifyGet fun system => (system.witness, { system with witness := [], phase := .proving })

end Emit

namespace Builder

variable {F : BaseField}

open Checked (element entries)

def inspect {α : Type} (question : System F → Except CircuitError α) : Builder F α := do
  Checked.ofExcept (question (← get))

def emit {α : Type} (change : Emit F α) : Builder F α :=
  ExceptT.lift change

def ensureBuilding : Builder F Unit :=
  inspect System.checkBuilding

def wire (slot : Nat) (index : Value) : Builder F Nat :=
  inspect (System.resolve · (.wire slot) index)

def read (index : Value) : Builder F (Variable F) :=
  inspect (System.read · index)

/-! ### Variables -/

def newVariable (value : Value) : Builder F Nat := do
  ensureBuilding
  let value ← element value
  return (← emit (.addVariable value)).index

def addVariables (values : Value) : Builder F (List Nat) := do
  ensureBuilding
  let values ← Checked.ofExcept (Value.toColumn F (← entries values))
  return (← emit (.addVariables values)).map (·.index)

def witnessValue (index : Value) : Builder F (Element F) :=
  return (← read index).value

def zeroVariable : Builder F Nat := do
  if (← get).zeroVar?.isNone then ensureBuilding
  return (← emit .reserveZero).index

def oneVariable : Builder F Nat := do
  if (← get).oneVar?.isNone then ensureBuilding
  return (← emit .reserveOne).index

/-! ### Rows -/

def insertGate (wires selectors : Value) : Builder F Nat := do
  let selectors ← entries selectors
  match Selectors.ofList? selectors with
  | none => throw (.parameter (.selectorCount selectors.length))
  | some sels =>
    let sels ← sels.mapM element
    ensureBuilding
    let wires ← entries wires
    match Wires.ofList? wires with
    | none => throw (.parameter (.wireCount wires.length))
    | some w =>
      let wires := {
        w1 := ← wire 0 w.w1
        w2 := ← wire 1 w.w2
        w3 := ← wire 2 w.w3
        w4 := ← wire 3 w.w4
        wo := ← wire 4 w.wo
      }
      emit (.addRow ⟨wires, sels⟩)

/-- Adds the row `output = q1 w1 + q2 w2 + q3 w3 + q4 w4`. -/
def insertLinearGate (inputs output q1 q2 q3 q4 : Value) : Builder F Nat := do
  match ← entries inputs with
  | [w1, w2, w3, w4] =>
    let q1 ← element q1
    let q2 ← element q2
    let q3 ← element q3
    let q4 ← element q4
    ensureBuilding
    let w1 ← wire 0 w1
    let w2 ← wire 1 w2
    let w3 ← wire 2 w3
    let w4 ← wire 3 w4
    let output ← wire 4 output
    emit (.addRow (.linear w1 w2 w3 w4 output q1 q2 q3 q4))
  | inputs => throw (.parameter (.inputCount inputs.length))

/-- Adds a row for two inputs and an output. -/
def insertBinaryGate (row : Nat → Nat → Nat → Row F) (left right output : Value) :
    Builder F Nat := do
  ensureBuilding
  let left ← wire 0 left
  let right ← wire 1 right
  let output ← wire 4 output
  emit (.addRow (row left right output))

def insertAddGate (left right output : Value) : Builder F Nat :=
  insertBinaryGate .sum left right output

def insertSubGate (left right output : Value) : Builder F Nat :=
  insertBinaryGate .difference left right output

def insertMulGate (left right output : Value) : Builder F Nat :=
  insertBinaryGate .product left right output

/-- Forces a variable to be 0 or 1. -/
def insertBooleanGate (index : Value) : Builder F BoolVar := do
  ensureBuilding
  let found ← wire 0 index
  let _ ← emit (.addRow (.boolean found))
  return ⟨found⟩

/-- Forces a variable to have a constant value. -/
def insertConstantGate (index constant : Value) : Builder F Nat := do
  let value ← element constant
  ensureBuilding
  let found ← wire 0 index
  emit (.addRow (.constant found value))

/-- Reserves the next row for a public input that has to equal a variable.  Its
gate is the constant zero, so the equation with the public value holds exactly
if the two are equal. -/
def preparePublicInput (index : Value) : Builder F Nat := do
  ensureBuilding
  let found ← wire 0 index
  let row ← emit (.addRow (.constant found 0))
  emit (.addBinding ⟨row, found⟩)
  return row

/-! ### Completion -/

/-- The least power of two that is at least `size` and positive. -/
def nextPowerOfTwo (size : Nat) : Nat :=
  if size ≤ 1 then 1 else Nat.pow 2 ((size - 1).log2 + 1)

/-- Pads the rows to a power of two.  A system without variables first gets the
variable reserved for zero, which the new rows then carry. -/
def pad : Builder F Unit := do
  if (← get).phase = .proving then throw (.tooLate .paddingClosed)
  if (← get).numVars = 0 then
    let _ ← zeroVariable
  emit (.padTo (nextPowerOfTwo (← get).size))

/-- Takes out the witness, which is possible once. -/
def takeWitness : Builder F (List (Element F)) := do
  if (← get).phase = .proving then throw (.tooLate .alreadyTaken)
  emit .takeWitness

end Builder

end Plonkish
