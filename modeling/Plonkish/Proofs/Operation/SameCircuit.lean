import Plonkish.Proofs.Operation.Accepted

/-!
# Systems that differ in the stored values only

Two systems describe the same circuit if they agree in everything but the values of
their variables.  No change looks at the values to decide which variables and rows it
adds, so it takes equal circuits to equal circuits, and plans for them are the same.
-/

namespace Plonkish

variable {F : BaseField}

/-- The systems agree in everything but the stored values. -/
structure System.SameCircuit (left right : System F) : Prop where
  quotient_eq : left.quotient = right.quotient
  rows_eq : left.rows = right.rows
  numVars_eq : left.numVars = right.numVars
  bindings_eq : left.bindings = right.bindings
  zeroVar?_eq : left.zeroVar? = right.zeroVar?
  oneVar?_eq : left.oneVar? = right.oneVar?
  phase_eq : left.phase = right.phase

namespace System.SameCircuit

variable {left right : System F}

theorem refl (system : System F) : system.SameCircuit system :=
  ⟨rfl, rfl, rfl, rfl, rfl, rfl, rfl⟩

/-- The right system is the left one with other values. -/
theorem eq_with_witness (hsame : left.SameCircuit right) :
    right = { left with witness := right.witness } := by
  obtain ⟨quotient, rows, numVars, bindings, witness, zeroVar?, oneVar?, phase⟩ := right
  obtain ⟨hquotient, hrows, hnumVars, hbindings, hzero, hone, hphase⟩ := hsame
  simp only at hquotient hrows hnumVars hbindings hzero hone hphase
  subst hquotient hrows hnumVars hbindings hzero hone hphase
  rfl

theorem size_eq (hsame : left.SameCircuit right) : left.size = right.size := by
  rw [size, size, hsame.rows_eq]

theorem reserved?_eq (hsame : left.SameCircuit right) (constant : Reserved) :
    left.reserved? constant = right.reserved? constant := by
  cases constant with
  | zero => exact hsame.zeroVar?_eq
  | one => exact hsame.oneVar?_eq

theorem reservedIndex_eq (hsame : left.SameCircuit right) (constant : Reserved) :
    left.reservedIndex constant = right.reservedIndex constant := by
  rw [reservedIndex, reservedIndex, hsame.reserved?_eq, hsame.numVars_eq]

theorem grow (hsame : left.SameCircuit right) {values values' : List (Element F)}
    (hlength : values.length = values'.length) (rows : List (Row F)) :
    (left.grow values rows).SameCircuit (right.grow values' rows) where
  quotient_eq := hsame.quotient_eq
  rows_eq := congrArg (· ++ rows) hsame.rows_eq
  numVars_eq := congrArg₂ Nat.add hsame.numVars_eq hlength
  bindings_eq := hsame.bindings_eq
  zeroVar?_eq := hsame.zeroVar?_eq
  oneVar?_eq := hsame.oneVar?_eq
  phase_eq := hsame.phase_eq

theorem reserve (hsame : left.SameCircuit right) (constant : Reserved) :
    (left.reserve constant).SameCircuit (right.reserve constant) := by
  cases hreserved : right.reserved? constant with
  | some index =>
      rw [reserve_of_some hreserved, reserve_of_some (hsame.reserved?_eq constant ▸ hreserved)]
      exact hsame
  | none =>
      have hgrown : (left.grow [constant.value F]
          [.constant right.numVars (constant.value F)]).SameCircuit
          (right.grow [constant.value F] [.constant right.numVars (constant.value F)]) :=
        hsame.grow rfl _
      rw [reserve_of_none hreserved, reserve_of_none (hsame.reserved?_eq constant ▸ hreserved),
        hsame.numVars_eq]
      cases constant with
      | zero => exact { hgrown with zeroVar?_eq := rfl }
      | one => exact { hgrown with oneVar?_eq := rfl }

theorem bindPublic (hsame : left.SameCircuit right) (index : Nat) :
    (left.bindPublic index).SameCircuit (right.bindPublic index) :=
  { hsame.grow rfl [.constant index 0] with
    bindings_eq := by
      rw [System.bindPublic, System.bindPublic, hsame.bindings_eq, hsame.size_eq] }

theorem define (hsame : left.SameCircuit right) (formula : Formula F) :
    (left.define formula).SameCircuit (right.define formula) := by
  rw [System.define, System.define, hsame.numVars_eq]
  exact hsame.grow (by rfl) _

theorem equate (hsame : left.SameCircuit right) (l r : Nat) :
    (left.equate l r).SameCircuit (right.equate l r) := by
  rw [System.equate, System.equate, hsame.reservedIndex_eq]
  exact (hsame.reserve .zero).grow rfl _

theorem invertDifference (hsame : left.SameCircuit right) (l r : Nat) :
    (left.invertDifference l r).SameCircuit (right.invertDifference l r) := by
  rw [System.invertDifference, System.invertDifference, hsame.numVars_eq]
  exact ((hsame.define _).grow (by rfl) []).define _

theorem equalFlag_eq (hsame : left.SameCircuit right) (l r : Nat) :
    left.equalFlag l r = right.equalFlag l r :=
  ((hsame.invertDifference l r).reserve .one).numVars_eq

theorem compare (hsame : left.SameCircuit right) (l r : Nat) :
    (left.compare l r).SameCircuit (right.compare l r) := by
  have hinverted := hsame.invertDifference l r
  rw [System.compare, System.compare, hsame.numVars_eq, hinverted.reservedIndex_eq]
  exact (hinverted.reserve .one).define _

theorem addFlags (hsame : left.SameCircuit right) (l r : Nat) :
    (left.addFlags l r).SameCircuit (right.addFlags l r) := by
  have hcompared := hsame.compare l r
  rw [System.addFlags, System.addFlags, hsame.numVars_eq, hsame.equalFlag_eq,
    hcompared.reservedIndex_eq]
  exact (hcompared.reserve .zero).grow rfl _

theorem addDigits (hsame : left.SameCircuit right) (checked count : Nat) :
    (left.addDigits checked count).SameCircuit (right.addDigits checked count) := by
  rw [System.addDigits, System.addDigits, hsame.numVars_eq]
  exact hsame.grow (by rw [length_digitValues, length_digitValues]) _

theorem inhabited (hsame : left.SameCircuit right) :
    left.inhabited.SameCircuit right.inhabited := by
  by_cases hnumVars : right.numVars = 0
  · rw [inhabited_of_eq_zero hnumVars, inhabited_of_eq_zero (hsame.numVars_eq.trans hnumVars)]
    exact hsame.reserve .zero
  · rw [inhabited_of_ne_zero hnumVars, inhabited_of_ne_zero (hsame.numVars_eq ▸ hnumVars)]
    exact hsame

theorem padded (hsame : left.SameCircuit right) : left.padded.SameCircuit right.padded := by
  rw [System.padded, System.padded, paddingRows, paddingRows, hsame.inhabited.size_eq]
  exact { hsame.inhabited.grow rfl _ with phase_eq := rfl }

/-- Once the values are gone nothing tells the systems apart. -/
theorem taken_eq (hsame : left.SameCircuit right) : left.taken = right.taken := by
  rw [hsame.eq_with_witness]
  rfl

/-- A change takes equal circuits to equal circuits. -/
theorem apply (hsame : left.SameCircuit right) (change : Change F) :
    (change.apply left).SameCircuit (change.apply right) := by
  cases change with
  | keep => exact hsame
  | inputs values => exact hsame.grow rfl []
  | reserve constant => exact hsame.reserve constant
  | row inserted => exact hsame.grow rfl [inserted]
  | publicInput index => exact hsame.bindPublic index
  | pad => exact hsame.padded
  | takeWitness =>
      rw [Change.apply, Change.apply, hsame.taken_eq]
      exact refl _
  | formula defining => exact hsame.define defining
  | equation l r => exact hsame.equate l r
  | flags l r => exact hsame.addFlags l r
  | digits checked count => exact hsame.addDigits checked count

/-- The checks of an operation do not ask for values. -/
theorem plan_eq (hsame : left.SameCircuit right) (operation : Operation) :
    operation.plan left = operation.plan right := by
  rw [hsame.eq_with_witness]
  cases operation <;> rfl

end System.SameCircuit

end Plonkish
