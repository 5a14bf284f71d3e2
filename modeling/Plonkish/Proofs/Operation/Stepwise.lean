import Plonkish.Operation
import Plonkish.Proofs.System.Growth
import Plonkish.System.Columns

/-!
# Operations made of calls

A gadget checks its arguments and then changes the system.  The same gadget can be made
of calls that each check their own arguments and change the state at once: a variable is
added, a row is added, and every row checks the phase and all of its wires again.  The state
is stored column by column, and an entry is appended to each column on its own.  Such a
gadget could be refused halfway, and such a state could be left with columns that do not fit
together.
-/

namespace Plonkish

variable {F : BaseField}

namespace Columns

/-- The variable reserved for a constant, if there is one. -/
def reserved? (columns : Columns F) : Reserved → Option Nat
  | .zero => columns.zeroVar?
  | .one => columns.oneVar?

def remember (columns : Columns F) (index : Nat) : Reserved → Columns F
  | .zero => { columns with zeroVar? := some index }
  | .one => { columns with oneVar? := some index }

end Columns

/-- A program on columns that may be refused between its changes. -/
abbrev Stepwise (F : BaseField) := Checked (Columns F)

namespace Stepwise

open Checked (element entries)

def ensureBuilding : Stepwise F Unit := do
  Checked.ofExcept (← get).phase.checkBuilding

def wire (slot : Nat) (index : Value) : Stepwise F Nat := do
  Checked.ofExcept (resolveIndex (← get).numVars (.wire slot) index)

/-! ### Variables -/

/-- Stores a value, and then counts its variable. -/
def appendVariable (value : Element F) : Stepwise F Nat := do
  modify fun columns => { columns with witness := columns.witness ++ [value] }
  modify fun columns => { columns with numVars := columns.numVars + 1 }
  return (← get).numVars - 1

def newVariable (value : Value) : Stepwise F Nat := do
  ensureBuilding
  appendVariable (← element value)

def appendVariables (values : List (Element F)) : Stepwise F (List Nat) := do
  let first := (← get).numVars
  modify fun columns => { columns with witness := columns.witness ++ values }
  modify fun columns => { columns with numVars := columns.numVars + values.length }
  return List.range' first ((← get).numVars - first)

def addVariables (values : Value) : Stepwise F (List Nat) := do
  ensureBuilding
  appendVariables (← Checked.ofExcept (Value.toColumn F (← entries values)))

/-- The value of a variable, which is refused where the store is too short for it. -/
def witnessValue (index : Value) : Stepwise F (Element F) := do
  if (← get).phase = .proving then throw (.tooLate .witnessCleared)
  let found ← Checked.ofExcept (resolveIndex (← get).numVars .operand index)
  Checked.ofExcept (entryAt (← get).witness found)

/-! ### Rows -/

/-- Appends a row to the columns of the selectors and to those of the wires, and then counts
it. -/
def appendRow (wires : Wires Nat) (sels : Selectors (Element F)) : Stepwise F Nat := do
  modify fun columns =>
    { columns with selectors := appendEntries columns.selectors sels.toList }
  modify fun columns => { columns with wiring := appendEntries columns.wiring wires.toList }
  modify fun columns => { columns with size := columns.size + 1 }
  return (← get).size - 1

/-- Adds a row, after a look at the phase and at each of its wires. -/
def pushRow (wires : Value) (sels : Selectors (Element F)) : Stepwise F Nat := do
  ensureBuilding
  let wires ← entries wires
  match Wires.ofList? wires with
  | none => throw (.parameter (.wireCount wires.length))
  | some given =>
    let wires := {
      w1 := ← wire 0 given.w1
      w2 := ← wire 1 given.w2
      w3 := ← wire 2 given.w3
      w4 := ← wire 3 given.w4
      wo := ← wire 4 given.wo
    }
    appendRow wires sels

def insertGate (wires selectors : Value) : Stepwise F Nat := do
  let selectors ← entries selectors
  match Selectors.ofList? selectors with
  | none => throw (.parameter (.selectorCount selectors.length))
  | some sels => pushRow wires (← sels.mapM element)

def insertLinearGate (inputs output q1 q2 q3 q4 : Value) : Stepwise F Nat := do
  match ← entries inputs with
  | [w1, w2, w3, w4] =>
    let q1 ← element q1
    let q2 ← element q2
    let q3 ← element q3
    let q4 ← element q4
    pushRow (.list [w1, w2, w3, w4, output]) (.linear q1 q2 q3 q4)
  | inputs => throw (.parameter (.inputCount inputs.length))

/-- Adds a row for two inputs and an output, with variable 0 on the other wires. -/
def pushBinary (sels : Selectors (Element F)) (left right output : Value) : Stepwise F Nat :=
  pushRow (.list [left, right, .int 0, .int 0, output]) sels

def insertAddGate (left right output : Value) : Stepwise F Nat :=
  insertLinearGate (.list [left, right, .int 0, .int 0]) output (.int 1) (.int 1) (.int 0) (.int 0)

def insertSubGate (left right output : Value) : Stepwise F Nat :=
  insertLinearGate (.list [left, right, .int 0, .int 0]) output (.int 1) (.int (-1)) (.int 0)
    (.int 0)

def insertMulGate (left right output : Value) : Stepwise F Nat :=
  pushBinary .product left right output

def insertBooleanGate (index : Value) : Stepwise F BoolVar := do
  let _ ← insertMulGate index index index
  return ⟨← wire 0 index⟩

def insertConstantGate (index constant : Value) : Stepwise F Nat := do
  let value ← element constant
  pushRow (.list (List.replicate Wires.count index)) (.constant value)

/-- The row of a public input is bound before its variable is. -/
def preparePublicInput (index : Value) : Stepwise F Nat := do
  let row ← insertConstantGate index (.int 0)
  modify fun columns => { columns with bindingRows := columns.bindingRows ++ [row] }
  let found ← wire 0 index
  modify fun columns => { columns with bindingVars := columns.bindingVars ++ [found] }
  return row

/-! ### Reserved variables -/

/-- The variable reserved for a constant, which is remembered once its row is there. -/
def reserved (constant : Reserved) : Stepwise F Nat := do
  match (← get).reserved? constant with
  | some index => return index
  | none =>
    let index ← newVariable (.element (constant.value F))
    let _ ← insertConstantGate (.ofNat index) (.element (constant.value F))
    modify (·.remember index constant)
    return index

/-! ### Completion -/

/-- Appends zeros to every column, and then counts the rows anew. -/
def padTo (size : Nat) : Stepwise F Unit := do
  let added := size - (← get).size
  modify fun columns =>
    { columns with selectors := columns.selectors.map (· ++ List.replicate added 0) }
  modify fun columns =>
    { columns with wiring := columns.wiring.map (· ++ List.replicate added 0) }
  modify fun columns => { columns with size }
  modify fun columns => { columns with phase := .padded }

def pad : Stepwise F Unit := do
  if (← get).phase = .proving then throw (.tooLate .paddingClosed)
  if (← get).numVars = 0 then
    let _ ← reserved .zero
  padTo (Builder.nextPowerOfTwo (← get).size)

def takeWitness : Stepwise F (List (Element F)) := do
  if (← get).phase = .proving then throw (.tooLate .alreadyTaken)
  let witness := (← get).witness
  modify fun columns => { columns with witness := [] }
  modify fun columns => { columns with phase := .proving }
  return witness

/-! ### Gadgets -/

/-- Adds a variable and then the row that defines it. -/
def define (value : Element F) (gate : Value → Stepwise F Nat) : Stepwise F Nat := do
  let output ← newVariable (.element value)
  let _ ← gate (.ofNat output)
  return output

def linearCombine (inputs q1 q2 q3 q4 : Value) : Stepwise F Nat := do
  match ← entries inputs with
  | [w1, w2, w3, w4] =>
    let q1 ← element q1
    let q2 ← element q2
    let q3 ← element q3
    let q4 ← element q4
    let v1 ← witnessValue w1
    let v2 ← witnessValue w2
    let v3 ← witnessValue w3
    let v4 ← witnessValue w4
    define (q1 * v1 + q2 * v2 + q3 * v3 + q4 * v4) fun output =>
      insertLinearGate inputs output (.element q1) (.element q2) (.element q3) (.element q4)
  | inputs => throw (.parameter (.inputCount inputs.length))

def combine (operation : Element F → Element F → Element F)
    (gate : Value → Value → Value → Stepwise F Nat) (left right : Value) : Stepwise F Nat := do
  let leftValue ← witnessValue left
  let rightValue ← witnessValue right
  define (operation leftValue rightValue) (gate left right)

def add (left right : Value) : Stepwise F Nat :=
  combine (· + ·) insertAddGate left right

def sub (left right : Value) : Stepwise F Nat :=
  combine (· - ·) insertSubGate left right

def mul (left right : Value) : Stepwise F Nat :=
  combine (· * ·) insertMulGate left right

def equal (left right : Value) : Stepwise F Unit := do
  let _ ← witnessValue (F := F) left
  let _ ← witnessValue (F := F) right
  let zeroVar ← reserved .zero
  let _ ← insertSubGate left right (.ofNat zeroVar)

def select (var0 var1 bit : Value) : Stepwise F Nat := do
  let bitValue ← witnessValue bit
  let value0 ← witnessValue var0
  let value1 ← witnessValue var1
  define (value0 + bitValue * (value1 - value0)) fun output =>
    insertGate (.list [bit, var0, bit, var1, output])
      (.list ([0, 1, 0, 0, -1, 1, 0, 0, 0, 0, 0, 0, 1].map .int))

/-- The flags that tell whether a difference is zero. -/
def differenceFlags (diff : Nat) : Stepwise F EqualityFlags := do
  let value ← witnessValue (.ofNat diff)
  let inverse ← newVariable (.element value.inverseOrZero)
  let notEqual ← mul (.ofNat diff) (.ofNat inverse)
  let oneVar ← reserved .one
  let equal ← sub (.ofNat oneVar) (.ofNat notEqual)
  let zeroVar ← reserved .zero
  let _ ← insertMulGate (.ofNat diff) (.ofNat equal) (.ofNat zeroVar)
  return ⟨⟨equal⟩, ⟨notEqual⟩⟩

def isEqualOrNotEqual (left right : Value) : Stepwise F EqualityFlags := do
  differenceFlags (← sub left right)

/-- Puts binary digits together, the most significant first. -/
def recompose (checked : Value) (accumulator : Nat) : List Nat → Stepwise F Unit
  | b3 :: b2 :: b1 :: b0 :: rest => do
    let next ← linearCombine (.list [.ofNat accumulator, .ofNat b3, .ofNat b2, .ofNat b1])
      (.int 8) (.int 4) (.int 2) (.int 1)
    recompose checked next (b0 :: rest)
  | [b2, b1, b0] => do
    let _ ← insertLinearGate (.list [.ofNat accumulator, .ofNat b2, .ofNat b1, .ofNat b0])
      checked (.int 8) (.int 4) (.int 2) (.int 1)
  | [b1, b0] => do
    let _ ← insertLinearGate (.list [.ofNat accumulator, .ofNat b1, .ofNat b0, .int 0])
      checked (.int 4) (.int 2) (.int 1) (.int 0)
  | [b0] => do
    let _ ← insertLinearGate (.list [.ofNat accumulator, .ofNat b0, .int 0, .int 0])
      checked (.int 2) (.int 1) (.int 0) (.int 0)
  | [] => pure ()

/-- Adds binary digits, one after the other, and then their rows. -/
def binaryDigits (checked : Value) (values : List (Element F)) : Stepwise F (List BoolVar) := do
  let digits ← values.mapM fun value => newVariable (.element value)
  digits.forM fun digit => do
    let _ ← insertBooleanGate (.ofNat digit)
  match digits.reverse with
  | top :: rest => recompose checked top rest
  | [] => pure ()
  return digits.map .mk

def rangeCheck (index count : Value) : Stepwise F (List BoolVar) := do
  if ← Checked.ofExcept (count.isBelow 2) then throw (.parameter (.bitCount count.display))
  let value ← witnessValue index
  let number ← Checked.ofExcept count.toNumber
  binaryDigits index (← Checked.ofExcept (value.toBits number))

/-- The operation made of calls. -/
def perform : Operation → Stepwise F (Outcome F)
  | .newVariable value => return .index (← newVariable value)
  | .addVariables values => return .indices (← addVariables values)
  | .witnessValue index => return .element (← witnessValue index)
  | .zeroVariable => return .index (← reserved .zero)
  | .oneVariable => return .index (← reserved .one)
  | .insertGate wires selectors => return .index (← insertGate wires selectors)
  | .insertLinearGate inputs output q1 q2 q3 q4 =>
    return .index (← insertLinearGate inputs output q1 q2 q3 q4)
  | .insertAddGate left right output => return .index (← insertAddGate left right output)
  | .insertSubGate left right output => return .index (← insertSubGate left right output)
  | .insertMulGate left right output => return .index (← insertMulGate left right output)
  | .insertBooleanGate index => return .boolVar (← insertBooleanGate index)
  | .insertConstantGate index constant => return .index (← insertConstantGate index constant)
  | .preparePublicInput index => return .index (← preparePublicInput index)
  | .pad => do
    pad
    return .done
  | .takeWitness => return .witness (← takeWitness)
  | .linearCombine inputs q1 q2 q3 q4 => return .index (← linearCombine inputs q1 q2 q3 q4)
  | .add left right => return .index (← add left right)
  | .sub left right => return .index (← sub left right)
  | .mul left right => return .index (← mul left right)
  | .equal left right => do
    equal left right
    return .done
  | .select var0 var1 bit => return .index (← select var0 var1 bit)
  | .isEqual left right => return .boolVar (← isEqualOrNotEqual left right).equal
  | .isNotEqual left right => return .boolVar (← isEqualOrNotEqual left right).notEqual
  | .isEqualOrNotEqual left right => return .flags (← isEqualOrNotEqual left right)
  | .rangeCheck index count => return .boolVars (← rangeCheck index count)

end Stepwise

namespace Operation

/-- The outcome of the operation made of calls and the columns after it. -/
def runStepwise (operation : Operation) (columns : Columns F) :
    Except CircuitError (Outcome F) × Columns F :=
  (Stepwise.perform (F := F) operation).run.run columns

/-- The outcomes of a run of operations made of calls and the columns after it. -/
def runAllStepwise :
    List Operation → Columns F → List (Except CircuitError (Outcome F)) × Columns F
  | [], columns => ([], columns)
  | operation :: operations, columns =>
    let (outcome, columns) := operation.runStepwise columns
    let (outcomes, columns) := runAllStepwise operations columns
    (outcome :: outcomes, columns)

end Operation

def Columns.after (columns : Columns F) (operations : List Operation) : Columns F :=
  (Operation.runAllStepwise operations columns).2

end Plonkish
