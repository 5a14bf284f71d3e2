import Plonkish.Gate.Basic
import Plonkish.Operand

/-!
# The gate equation on columns

The gate equation and the multipliers of the selectors, evaluated on operands
that may be columns.  Every sum and product is taken entry by entry, so all rows
are evaluated at once; columns whose lengths do not fit are refused.
-/

namespace Plonkish

namespace Operand

variable {F : BaseField}

def addAll (first : Operand F) (others : List (Operand F)) : Except CircuitError (Operand F) :=
  others.foldlM add first

def mulAll (first : Operand F) (others : List (Operand F)) : Except CircuitError (Operand F) :=
  others.foldlM mul first

end Operand

namespace Gate

variable {F : BaseField}

/-- The left-hand side of the gate equation on operands. -/
def evaluate (w : Wires (Operand F)) (q : Selectors (Operand F)) (publicValue : Operand F) :
    Except CircuitError (Operand F) := do
  let linear ← (← q.q1.mul w.w1).addAll
    [← q.q2.mul w.w2, ← q.q3.mul w.w3, ← q.q4.mul w.w4]
  let products ← (← q.qm1.mul (← w.w1.mul w.w2)).add (← q.qm2.mul (← w.w3.mul w.w4))
  let productOfAll ← q.qecc.mul (← w.w1.mulAll [w.w2, w.w3, w.w4, w.wo])
  let powers ← (← q.qh1.mul (w.w1.pow 5)).addAll
    [← q.qh2.mul (w.w2.pow 5), ← q.qh3.mul (w.w3.pow 5), ← q.qh4.mul (w.w4.pow 5)]
  let constant ← q.qc.add publicValue
  let total ← linear.addAll [products, productOfAll, powers, constant]
  total.sub (← q.qo.mul w.wo)

/-- The left-hand side of the gate equation for lists of wires and selectors,
which have to be five and thirteen. -/
def evaluateLists (wires selectors : List (Operand F)) (publicValue : Operand F) :
    Except CircuitError (Operand F) :=
  match Wires.ofList? wires, Selectors.ofList? selectors with
  | some w, some q => evaluate w q publicValue
  | _, _ => .error (.parameter (.gateArity wires.length selectors.length))

/-- What each selector is multiplied by in the gate equation.  The constant is
multiplied by ones in the shape of the first wire. -/
def multipliers (w : Wires (Operand F)) : Except CircuitError (Selectors (Operand F)) := do
  return {
    q1 := w.w1
    q2 := w.w2
    q3 := w.w3
    q4 := w.w4
    qm1 := ← w.w1.mul w.w2
    qm2 := ← w.w3.mul w.w4
    qc := w.w1.pow 0
    qecc := ← w.w1.mulAll [w.w2, w.w3, w.w4, w.wo]
    qh1 := w.w1.pow 5
    qh2 := w.w2.pow 5
    qh3 := w.w3.pow 5
    qh4 := w.w4.pow 5
    qo := w.wo.neg
  }

/-- The multipliers for a list of wires.  Wires beyond the fifth play no part. -/
def multipliersOfList (wires : List (Operand F)) :
    Except CircuitError (Selectors (Operand F)) :=
  match Wires.ofList? (wires.take Wires.count) with
  | some w => multipliers w
  | none => .error (.parameter (.multiplierArity wires.length))

end Gate

end Plonkish
