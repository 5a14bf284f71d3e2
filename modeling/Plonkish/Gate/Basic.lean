import Plonkish.Error

/-!
# The gate equation

A row of the constraint matrix holds five wires and thirteen selectors.  It is
satisfied when the gate equation

    q1 w1 + q2 w2 + q3 w3 + q4 w4 + qm1 w1 w2 + qm2 w3 w4 + qc + PI
      + qecc w1 w2 w3 w4 wo + qh1 w1^5 + qh2 w2^5 + qh3 w3^5 + qh4 w4^5 - qo wo = 0

holds, where `PI` is the public value of the row, zero for most rows.
-/

namespace Plonkish

/-- Five entries, one for each wire of a row. -/
structure Wires (α : Type) where
  w1 : α
  w2 : α
  w3 : α
  w4 : α
  wo : α
  deriving DecidableEq

namespace Wires

variable {α β : Type}

def count : Nat := 5

def replicate (entry : α) : Wires α :=
  ⟨entry, entry, entry, entry, entry⟩

def toList (wires : Wires α) : List α :=
  [wires.w1, wires.w2, wires.w3, wires.w4, wires.wo]

def ofList? : List α → Option (Wires α)
  | [w1, w2, w3, w4, wo] => some ⟨w1, w2, w3, w4, wo⟩
  | _ => none

@[simp]
theorem ofList?_toList (wires : Wires α) : ofList? wires.toList = some wires := rfl

theorem ofList?_eq_some_iff {entries : List α} {wires : Wires α} :
    ofList? entries = some wires ↔ entries = wires.toList := by
  constructor
  · intro h
    unfold ofList? at h
    split at h
    · cases h; rfl
    · contradiction
  · rintro rfl; rfl

def map (f : α → β) (wires : Wires α) : Wires β :=
  ⟨f wires.w1, f wires.w2, f wires.w3, f wires.w4, f wires.wo⟩

end Wires

/-- Thirteen entries, one for each selector of a row. -/
structure Selectors (α : Type) where
  /-- The weight of the first input. -/
  q1 : α
  /-- The weight of the second input. -/
  q2 : α
  /-- The weight of the third input. -/
  q3 : α
  /-- The weight of the fourth input. -/
  q4 : α
  /-- The weight of the product of the first two inputs. -/
  qm1 : α
  /-- The weight of the product of the last two inputs. -/
  qm2 : α
  /-- The constant. -/
  qc : α
  /-- The weight of the product of all five wires. -/
  qecc : α
  /-- The weight of the fifth power of the first input. -/
  qh1 : α
  /-- The weight of the fifth power of the second input. -/
  qh2 : α
  /-- The weight of the fifth power of the third input. -/
  qh3 : α
  /-- The weight of the fifth power of the fourth input. -/
  qh4 : α
  /-- The weight of the output. -/
  qo : α
  deriving DecidableEq

namespace Selectors

variable {α β : Type}

def count : Nat := 13

def toList (sels : Selectors α) : List α :=
  [sels.q1, sels.q2, sels.q3, sels.q4, sels.qm1, sels.qm2, sels.qc, sels.qecc,
    sels.qh1, sels.qh2, sels.qh3, sels.qh4, sels.qo]

def ofList? : List α → Option (Selectors α)
  | [q1, q2, q3, q4, qm1, qm2, qc, qecc, qh1, qh2, qh3, qh4, qo] =>
    some ⟨q1, q2, q3, q4, qm1, qm2, qc, qecc, qh1, qh2, qh3, qh4, qo⟩
  | _ => none

@[simp]
theorem ofList?_toList (sels : Selectors α) : ofList? sels.toList = some sels := rfl

theorem ofList?_eq_some_iff {entries : List α} {sels : Selectors α} :
    ofList? entries = some sels ↔ entries = sels.toList := by
  constructor
  · intro h
    unfold ofList? at h
    split at h
    · cases h; rfl
    · contradiction
  · rintro rfl; rfl

/-- Applies a function to every entry, in column order. -/
def mapM {m : Type → Type} [Monad m] (f : α → m β) (sels : Selectors α) : m (Selectors β) := do
  return {
    q1 := ← f sels.q1
    q2 := ← f sels.q2
    q3 := ← f sels.q3
    q4 := ← f sels.q4
    qm1 := ← f sels.qm1
    qm2 := ← f sels.qm2
    qc := ← f sels.qc
    qecc := ← f sels.qecc
    qh1 := ← f sels.qh1
    qh2 := ← f sels.qh2
    qh3 := ← f sels.qh3
    qh4 := ← f sels.qh4
    qo := ← f sels.qo
  }

end Selectors

namespace Gate

variable {F : BaseField}

/-- The degree of the gate equation in the wires. -/
def maxDegree : Nat := 5

/-- The left-hand side of the gate equation. -/
def residual (w : Wires (Element F)) (q : Selectors (Element F)) (publicValue : Element F) :
    Element F :=
  let linear := q.q1 * w.w1 + q.q2 * w.w2 + q.q3 * w.w3 + q.q4 * w.w4
  let products := q.qm1 * (w.w1 * w.w2) + q.qm2 * (w.w3 * w.w4)
  let productOfAll := q.qecc * (w.w1 * w.w2 * w.w3 * w.w4 * w.wo)
  let powers :=
    q.qh1 * w.w1.pow 5 + q.qh2 * w.w2.pow 5 + q.qh3 * w.w3.pow 5 + q.qh4 * w.w4.pow 5
  linear + products + productOfAll + powers + (q.qc + publicValue) - q.qo * w.wo

/-- The left-hand side of the gate equation for lists of wires and selectors,
which have to be five and thirteen. -/
def residualOfLists (wires selectors : List (Element F)) (publicValue : Element F) :
    Except CircuitError (Element F) :=
  match Wires.ofList? wires, Selectors.ofList? selectors with
  | some w, some q => .ok (residual w q publicValue)
  | _, _ => .error (.parameter (.gateArity wires.length selectors.length))

end Gate

end Plonkish
