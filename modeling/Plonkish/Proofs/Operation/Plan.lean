import Plonkish.Proofs.Operation.Change
import Plonkish.Proofs.Refusal

/-!
# Plans of operations

An operation checks its arguments and then changes the system.  Its plan is what the
checks come to: a refusal, or a change together with the outcome to report.  The
checks only ask for the phase of the system and for the numbers and indices of its
variables and rows, so a plan does not depend on the stored values.
-/

namespace Plonkish

variable {F : BaseField}

/-- A change of a system and what is reported about it. -/
structure Plan (F : BaseField) where
  change : Change F
  /-- The outcome, by the system before the change. -/
  report : System F → Outcome F

namespace Plan

def addRow (row : Row F) : Plan F where
  change := .row row
  report before := .index before.size

def define (formula : Formula F) : Plan F where
  change := .formula formula
  report before := .index before.numVars

def flags (left right : Nat) (report : EqualityFlags → Outcome F) : Plan F where
  change := .flags left right
  report before := report ⟨⟨before.equalFlag left right⟩, ⟨before.numVars + 2⟩⟩

end Plan

namespace System

variable (system : System F)

/-- The index of a variable whose value is read. -/
def findOperand (index : Value) : Except CircuitError Nat := do
  if system.phase = .proving then throw (.tooLate .witnessCleared)
  system.resolve .operand index

theorem findOperand_eq_ok_iff {system : System F} {index : Value} {found : Nat} :
    system.findOperand index = .ok found ↔
      system.phase ≠ .proving ∧ system.resolve .operand index = .ok found := by
  by_cases hphase : system.phase = .proving
  · rw [findOperand, if_pos hphase]
    exact ⟨nofun, fun hboth => absurd hphase hboth.1⟩
  · rw [findOperand, if_neg hphase]
    exact (and_iff_right hphase).symm

theorem in_of_findOperand {system : System F} {index : Value} {found : Nat}
    (hfound : system.findOperand index = .ok found) :
    (⟨found, system.stored found⟩ : Variable F).In system where
  index_lt := resolve_lt (findOperand_eq_ok_iff.mp hfound).2
  value_eq := rfl

def planBinaryRow (row : Nat → Nat → Nat → Row F) (left right output : Value) :
    Except CircuitError (Plan F) := do
  system.checkBuilding
  let left ← system.resolve (.wire 0) left
  let right ← system.resolve (.wire 1) right
  let output ← system.resolve (.wire 4) output
  return .addRow (row left right output)

def planBinary (combined : Nat → Nat → Plan F) (left right : Value) :
    Except CircuitError (Plan F) := do
  let left ← system.findOperand left
  let right ← system.findOperand right
  system.checkBuilding
  return combined left right

def planReserve (constant : Reserved) : Except CircuitError (Plan F) := do
  if (system.reserved? constant).isNone then system.checkBuilding
  return ⟨.reserve constant, fun before => .index (before.reservedIndex constant)⟩

end System

namespace Operation

/-- The plan of an operation on a system. -/
def plan (system : System F) : Operation → Except CircuitError (Plan F)
  | newVariable value => do
    system.checkBuilding
    let value ← value.toElement F
    return ⟨.inputs [value], fun before => .index before.numVars⟩
  | addVariables values => do
    system.checkBuilding
    let values ← values.elements F
    return ⟨.inputs values, fun before => .indices (List.range' before.numVars values.length)⟩
  | witnessValue index => do
    let found ← system.findOperand index
    return ⟨.keep, fun before => .element (before.stored found)⟩
  | zeroVariable => system.planReserve .zero
  | oneVariable => system.planReserve .one
  | insertGate wires selectors => do
    let selectors ← selectors.entries
    match Selectors.ofList? selectors with
    | none => throw (.parameter (.selectorCount selectors.length))
    | some sels =>
      let sels ← sels.mapM (Value.toElement F)
      system.checkBuilding
      let wires ← wires.entries
      match Wires.ofList? wires with
      | none => throw (.parameter (.wireCount wires.length))
      | some w =>
        let w1 ← system.resolve (.wire 0) w.w1
        let w2 ← system.resolve (.wire 1) w.w2
        let w3 ← system.resolve (.wire 2) w.w3
        let w4 ← system.resolve (.wire 3) w.w4
        let wo ← system.resolve (.wire 4) w.wo
        return .addRow ⟨⟨w1, w2, w3, w4, wo⟩, sels⟩
  | insertLinearGate inputs output q1 q2 q3 q4 => do
    match ← inputs.entries with
    | [w1, w2, w3, w4] =>
      let q1 ← q1.toElement F
      let q2 ← q2.toElement F
      let q3 ← q3.toElement F
      let q4 ← q4.toElement F
      system.checkBuilding
      let w1 ← system.resolve (.wire 0) w1
      let w2 ← system.resolve (.wire 1) w2
      let w3 ← system.resolve (.wire 2) w3
      let w4 ← system.resolve (.wire 3) w4
      let output ← system.resolve (.wire 4) output
      return .addRow (.linear w1 w2 w3 w4 output q1 q2 q3 q4)
    | inputs => throw (.parameter (.inputCount inputs.length))
  | insertAddGate left right output => system.planBinaryRow .sum left right output
  | insertSubGate left right output => system.planBinaryRow .difference left right output
  | insertMulGate left right output => system.planBinaryRow .product left right output
  | insertBooleanGate index => do
    system.checkBuilding
    let found ← system.resolve (.wire 0) index
    return ⟨.row (.boolean found), fun _ => .boolVar ⟨found⟩⟩
  | insertConstantGate index constant => do
    let value ← constant.toElement F
    system.checkBuilding
    let found ← system.resolve (.wire 0) index
    return .addRow (.constant found value)
  | preparePublicInput index => do
    system.checkBuilding
    let found ← system.resolve (.wire 0) index
    return ⟨.publicInput found, fun before => .index before.size⟩
  | pad => do
    if system.phase = .proving then throw (.tooLate .paddingClosed)
    if system.numVars = 0 ∧ system.zeroVar?.isNone then system.checkBuilding
    return ⟨.pad, fun _ => .done⟩
  | takeWitness => do
    if system.phase = .proving then throw (.tooLate .alreadyTaken)
    return ⟨.takeWitness, fun before => .witness before.witness⟩
  | linearCombine inputs q1 q2 q3 q4 => do
    match ← inputs.entries with
    | [w1, w2, w3, w4] =>
      let q1 ← q1.toElement F
      let q2 ← q2.toElement F
      let q3 ← q3.toElement F
      let q4 ← q4.toElement F
      let w1 ← system.findOperand w1
      let w2 ← system.findOperand w2
      let w3 ← system.findOperand w3
      let w4 ← system.findOperand w4
      system.checkBuilding
      return .define (.linear w1 w2 w3 w4 q1 q2 q3 q4)
    | inputs => throw (.parameter (.inputCount inputs.length))
  | add left right => system.planBinary (fun left right => .define (.sum left right)) left right
  | sub left right =>
    system.planBinary (fun left right => .define (.difference left right)) left right
  | mul left right =>
    system.planBinary (fun left right => .define (.product left right)) left right
  | equal left right =>
    system.planBinary (fun left right => ⟨.equation left right, fun _ => .done⟩) left right
  | select var0 var1 bit => do
    let bit ← system.findOperand bit
    let var0 ← system.findOperand var0
    let var1 ← system.findOperand var1
    system.checkBuilding
    return .define (.selection bit var0 var1)
  | isEqual left right =>
    system.planBinary (fun left right => .flags left right fun flags => .boolVar flags.equal)
      left right
  | isNotEqual left right =>
    system.planBinary (fun left right => .flags left right fun flags => .boolVar flags.notEqual)
      left right
  | isEqualOrNotEqual left right =>
    system.planBinary (fun left right => .flags left right .flags) left right
  | rangeCheck index count => do
    if ← count.isBelow 2 then throw (.parameter (.bitCount count.display))
    let checked ← system.findOperand index
    let number ← count.toNumber
    checkExtension (number - (8 * F.byteLength : Nat))
    system.checkBuilding
    return ⟨.digits checked number.toNat,
      fun before => .boolVars ((List.range' before.numVars number.toNat).map .mk)⟩

end Operation

/-- The result of a plan: the outcome with the changed system, or the refusal with
the system as it was. -/
def Plan.settle (system : System F) :
    Except CircuitError (Plan F) → Except CircuitError (Outcome F) × System F
  | .ok plan => (.ok (plan.report system), plan.change.apply system)
  | .error refusal => (.error refusal, system)

end Plonkish
