import Plonkish.Gadget.Equality
import Plonkish.Gadget.RangeCheck

/-!
# Operations as data

An `Operation` is one call on a system with its arguments, and a run is a list of
them.  A refused operation does not end a run.
-/

namespace Plonkish

/-- An operation on a system, with its arguments. -/
inductive Operation where
  | newVariable (value : Value)
  | addVariables (values : Value)
  | witnessValue (index : Value)
  | zeroVariable
  | oneVariable
  | insertGate (wires selectors : Value)
  | insertLinearGate (inputs output q1 q2 q3 q4 : Value)
  | insertAddGate (left right output : Value)
  | insertSubGate (left right output : Value)
  | insertMulGate (left right output : Value)
  | insertBooleanGate (index : Value)
  | insertConstantGate (index constant : Value)
  | preparePublicInput (index : Value)
  | pad
  | takeWitness
  | linearCombine (inputs q1 q2 q3 q4 : Value)
  | add (left right : Value)
  | sub (left right : Value)
  | mul (left right : Value)
  | equal (left right : Value)
  | select (var0 var1 bit : Value)
  | isEqual (left right : Value)
  | isNotEqual (left right : Value)
  | isEqualOrNotEqual (left right : Value)
  | rangeCheck (index count : Value)

/-- What an operation gives back. -/
inductive Outcome (F : BaseField) where
  | done
  | index (index : Nat)
  | indices (indices : List Nat)
  | element (value : Element F)
  | witness (values : List (Element F))
  | boolVar (bit : BoolVar)
  | boolVars (bits : List BoolVar)
  | flags (flags : EqualityFlags)
  deriving DecidableEq

namespace Operation

variable {F : BaseField}

def perform : Operation → Builder F (Outcome F)
  | newVariable value => return .index (← Builder.newVariable value)
  | addVariables values => return .indices (← Builder.addVariables values)
  | witnessValue index => return .element (← Builder.witnessValue index)
  | zeroVariable => return .index (← Builder.zeroVariable)
  | oneVariable => return .index (← Builder.oneVariable)
  | insertGate wires selectors => return .index (← Builder.insertGate wires selectors)
  | insertLinearGate inputs output q1 q2 q3 q4 =>
    return .index (← Builder.insertLinearGate inputs output q1 q2 q3 q4)
  | insertAddGate left right output => return .index (← Builder.insertAddGate left right output)
  | insertSubGate left right output => return .index (← Builder.insertSubGate left right output)
  | insertMulGate left right output => return .index (← Builder.insertMulGate left right output)
  | insertBooleanGate index => return .boolVar (← Builder.insertBooleanGate index)
  | insertConstantGate index constant =>
    return .index (← Builder.insertConstantGate index constant)
  | preparePublicInput index => return .index (← Builder.preparePublicInput index)
  | pad => do
    Builder.pad
    return .done
  | takeWitness => return .witness (← Builder.takeWitness)
  | linearCombine inputs q1 q2 q3 q4 =>
    return .index (← Builder.linearCombine inputs q1 q2 q3 q4)
  | add left right => return .index (← Builder.add left right)
  | sub left right => return .index (← Builder.sub left right)
  | mul left right => return .index (← Builder.mul left right)
  | equal left right => do
    Builder.equal left right
    return .done
  | select var0 var1 bit => return .index (← Builder.select var0 var1 bit)
  | isEqual left right => return .boolVar (← Builder.isEqual left right)
  | isNotEqual left right => return .boolVar (← Builder.isNotEqual left right)
  | isEqualOrNotEqual left right => return .flags (← Builder.isEqualOrNotEqual left right)
  | rangeCheck index count => return .boolVars (← Builder.rangeCheck index count)

/-- The outcome of the operation and the system after it. -/
def run (operation : Operation) (system : System F) :
    Except CircuitError (Outcome F) × System F :=
  (operation.perform (F := F)).run.run system

/-- The outcomes of a run and the system after it. -/
def runAll : List Operation → System F → List (Except CircuitError (Outcome F)) × System F
  | [], system => ([], system)
  | operation :: operations, system =>
    let (outcome, system) := operation.run system
    let (outcomes, system) := runAll operations system
    (outcome :: outcomes, system)

end Operation

namespace System

variable {F : BaseField}

def empty (F : BaseField) (quotient : QuotientDomain) : System F :=
  { quotient }

def after (system : System F) (operations : List Operation) : System F :=
  (Operation.runAll operations system).2

end System

end Plonkish
