import Plonkish.Gadget.Equality
import Plonkish.Proofs.Gadget.Formula

/-!
# Equations and equality flags

Forcing two variables to be equal adds exactly that to what a witness has to
satisfy.  The flags of two variables are pinned by their difference: where it is not
zero the inverse is pinned as well, and where it is zero any inverse will do.
-/

namespace Plonkish

variable {F : BaseField}

namespace System

variable (system : System F) (left right : Nat)

def equate : System F :=
  (system.reserve .zero).grow [] [.difference left right (system.reservedIndex .zero)]

/-- The system with the difference of two variables, the inverse of the difference,
which no row mentions yet, and the product of both. -/
def invertDifference : System F :=
  ((system.define (.difference left right)).grow
    [(system.stored left - system.stored right)⁻¹] []).define
    (.product system.numVars (system.numVars + 1))

/-- The variable that tells whether two variables are equal. -/
def equalFlag : Nat :=
  ((system.invertDifference left right).reserve .one).numVars

/-- The system with both flags, which the inverse does not pin yet. -/
def compare : System F :=
  let inverted := system.invertDifference left right
  (inverted.reserve .one).define
    (.difference (inverted.reservedIndex .one) (system.numVars + 2))

def addFlags : System F :=
  let compared := system.compare left right
  (compared.reserve .zero).grow []
    [.product system.numVars (system.equalFlag left right) (compared.reservedIndex .zero)]

@[simp]
theorem phase_equate : (system.equate left right).phase = system.phase := by
  rw [equate, phase_grow, phase_reserve]

@[simp]
theorem bindings_equate : (system.equate left right).bindings = system.bindings := by
  rw [equate, bindings_grow, bindings_reserve]

theorem numVars_invertDifference :
    (system.invertDifference left right).numVars = system.numVars + 3 := rfl

@[simp]
theorem phase_invertDifference : (system.invertDifference left right).phase = system.phase := rfl

@[simp]
theorem phase_compare : (system.compare left right).phase = system.phase := by
  rw [compare, phase_define, phase_reserve, phase_invertDifference]

theorem numVars_compare :
    (system.compare left right).numVars = system.equalFlag left right + 1 := rfl

@[simp]
theorem phase_addFlags : (system.addFlags left right).phase = system.phase := by
  rw [addFlags, phase_grow, phase_reserve, phase_compare]

@[simp]
theorem bindings_addFlags : (system.addFlags left right).bindings = system.bindings := by
  rw [addFlags, bindings_grow, bindings_reserve, compare, bindings_define, bindings_reserve,
    invertDifference, bindings_define, bindings_grow, bindings_define]

theorem numVars_add_three_le_equalFlag :
    system.numVars + 3 ≤ system.equalFlag left right :=
  numVars_le_reserve (system.invertDifference left right) .one

theorem equalFlag_lt_numVars_addFlags :
    system.equalFlag left right < (system.addFlags left right).numVars :=
  numVars_le_reserve (system.compare left right) .zero

variable {system left right} in
/-- The new variables of equality flags, some of which may have been there before. -/
theorem new_of_addFlags {index : Nat} (hnew : system.numVars ≤ index)
    (hindex : index < (system.addFlags left right).numVars) :
    index = system.numVars ∨ index = system.numVars + 1 ∨ index = system.numVars + 2 ∨
      index = (system.invertDifference left right).reservedIndex .one ∨
      index = system.equalFlag left right ∨
      index = (system.compare left right).reservedIndex .zero := by
  by_cases hcompared : (system.compare left right).numVars ≤ index
  · rw [eq_reservedIndex hcompared hindex]
    simp
  · rw [numVars_compare] at hcompared
    by_cases hinverted : (system.invertDifference left right).numVars ≤ index
    · by_cases hflag : index = system.equalFlag left right
      · simp [hflag]
      · have hlt : index < ((system.invertDifference left right).reserve .one).numVars := by
          rw [← equalFlag]
          omega
        rw [eq_reservedIndex hinverted hlt]
        simp
    · rw [numVars_invertDifference] at hinverted
      omega

/-- The rows of the equality flags of two variables hold. -/
structure FlagsHold (assigned : Nat → Element F) : Prop where
  /-- The first new variable is the difference. -/
  difference_eq : assigned system.numVars = assigned left - assigned right
  /-- The third one is the product of the difference and the inverse. -/
  notEqual_eq : assigned (system.numVars + 2) =
    assigned system.numVars * assigned (system.numVars + 1)
  /-- The flags add up to a variable that is one. -/
  equal_eq : assigned (system.equalFlag left right) =
    assigned ((system.invertDifference left right).reservedIndex .one) -
      assigned (system.numVars + 2)
  /-- The product of the difference and the flag for equality is a variable that is zero. -/
  product_eq : assigned ((system.compare left right).reservedIndex .zero) =
    assigned system.numVars * assigned (system.equalFlag left right)
  one_eq : assigned ((system.invertDifference left right).reservedIndex .one) = 1
  zero_eq : assigned ((system.compare left right).reservedIndex .zero) = 0

namespace FlagsHold

variable {system : System F} {left right : Nat} {assigned : Nat → Element F}

/-- Whatever the inverse is, the flags tell whether the variables are equal. -/
theorem equal_eq_ite (hflags : system.FlagsHold left right assigned) :
    assigned (system.equalFlag left right) =
      if assigned left = assigned right then 1 else 0 := by
  have hequal := hflags.equal_eq
  have hproduct := hflags.product_eq
  rw [hflags.one_eq, hflags.notEqual_eq, hflags.difference_eq] at hequal
  rw [hflags.zero_eq, hflags.difference_eq] at hproduct
  by_cases hsame : assigned left = assigned right
  · rw [if_pos hsame, hequal, hsame, sub_self, zero_mul, sub_zero]
  · rw [if_neg hsame]
    exact (mul_eq_zero.mp hproduct.symm).resolve_left (sub_ne_zero.mpr hsame)

theorem notEqual_eq_ite (hflags : system.FlagsHold left right assigned) :
    assigned (system.numVars + 2) = if assigned left = assigned right then 0 else 1 := by
  have hequal := hflags.equal_eq
  rw [hflags.one_eq, hflags.equal_eq_ite, eq_sub_iff_add_eq, ← eq_sub_iff_add_eq'] at hequal
  rw [hequal]
  split
  · exact sub_self 1
  · exact sub_zero 1

/-- Where the variables differ the inverse is the inverse of their difference. -/
theorem inverse_eq (hflags : system.FlagsHold left right assigned)
    (hdiffer : assigned left ≠ assigned right) :
    assigned (system.numVars + 1) = (assigned left - assigned right)⁻¹ := by
  have hnotEqual := hflags.notEqual_eq
  rw [hflags.notEqual_eq_ite, if_neg hdiffer, hflags.difference_eq] at hnotEqual
  exact eq_inv_of_mul_eq_one_right hnotEqual.symm

/-- The inverse is determined as well where the compared variables differ. -/
theorem agree {assigned' : Nat → Element F}
    (hflags : system.FlagsHold left right assigned)
    (hflags' : system.FlagsHold left right assigned')
    (hleft : assigned left = assigned' left) (hright : assigned right = assigned' right)
    {index : Nat} (hnew : system.numVars ≤ index)
    (hindex : index < (system.addFlags left right).numVars) :
    assigned index = assigned' index ∨
      index = system.numVars + 1 ∧ assigned left = assigned right := by
  rcases new_of_addFlags hnew hindex with rfl | rfl | rfl | rfl | rfl | rfl
  · left
    rw [hflags.difference_eq, hflags'.difference_eq, hleft, hright]
  · by_cases hequal : assigned left = assigned right
    · exact Or.inr ⟨rfl, hequal⟩
    · left
      rw [hflags.inverse_eq hequal, hflags'.inverse_eq (by rwa [← hleft, ← hright]), hleft, hright]
  · left
    rw [hflags.notEqual_eq_ite, hflags'.notEqual_eq_ite, hleft, hright]
  · left
    rw [hflags.one_eq, hflags'.one_eq]
  · left
    rw [hflags.equal_eq_ite, hflags'.equal_eq_ite, hleft, hright]
  · left
    rw [hflags.zero_eq, hflags'.zero_eq]

end FlagsHold

end System

namespace System

namespace WellFormed

variable {system : System F} {left right : Nat}

theorem equate (hsystem : system.WellFormed) (hleft : left < system.numVars)
    (hright : right < system.numVars) : (system.equate left right).WellFormed := by
  have hle := system.numVars_le_reserve .zero
  have hzero := hsystem.reservedIndex_lt .zero
  apply (hsystem.reserve .zero).grow_row
  simp only [Row.difference, Row.linear, Wires.toList, List.forall_mem_cons]
  exact ⟨by omega, by omega, by omega, by omega, hzero, List.forall_mem_nil _⟩

theorem satisfied_equate (hsystem : system.WellFormed) (assigned : Nat → Element F) :
    (system.equate left right).Satisfied assigned ↔
      system.Satisfied assigned ∧ assigned (system.reservedIndex .zero) = 0 ∧
        assigned left = assigned right := by
  rw [System.equate, (hsystem.reserve .zero).satisfied_grow, hsystem.satisfied_reserve,
    List.forall_mem_singleton, Row.holds_difference, and_assoc, Reserved.value]
  refine and_congr_right fun _ => and_congr_right fun hzero => ?_
  rw [hzero, eq_comm, sub_eq_zero]

/-- Equating two variables spoils the stored values exactly if these differ. -/
theorem honest_equate (hsystem : system.WellFormed) (hphase : system.phase ≠ .proving)
    (hleft : left < system.numVars) (hright : right < system.numVars) :
    (system.equate left right).Honest ↔
      system.Honest ∧ system.stored left = system.stored right := by
  have hlength := hsystem.length_witness hphase
  have hzero := (hsystem.reserve .zero).stored_reserved
    (by rwa [phase_reserve]) .zero _ (system.reserved?_reserve_self .zero)
  rw [System.equate, (hsystem.reserve .zero).honest_grow_row (by rwa [phase_reserve]),
    hsystem.honest_reserve hphase, Row.holds_difference, hzero,
    stored_reserve_of_lt hlength _ hleft, stored_reserve_of_lt hlength _ hright, Reserved.value,
    eq_comm, sub_eq_zero]

/-! ### The stages of the equality flags -/

theorem operands_difference_lt (hleft : left < system.numVars) (hright : right < system.numVars) :
    ∀ index ∈ (Formula.difference left right : Formula F).operands, index < system.numVars := by
  simp [Formula.operands, hleft, hright]

theorem invertDifference (hsystem : system.WellFormed) (hleft : left < system.numVars)
    (hright : right < system.numVars) : (system.invertDifference left right).WellFormed := by
  have hseparated : (system.define (.difference left right)).WellFormed :=
    hsystem.define (operands_difference_lt hleft hright)
  apply (hseparated.grow_values _).define
  simp [Formula.operands]

theorem operands_compare_lt (hinverted : (system.invertDifference left right).WellFormed) :
    ∀ index ∈ (Formula.difference ((system.invertDifference left right).reservedIndex .one)
      (system.numVars + 2) : Formula F).operands,
      index < ((system.invertDifference left right).reserve .one).numVars := by
  have hle : system.numVars + 3 ≤ ((system.invertDifference left right).reserve .one).numVars :=
    system.numVars_add_three_le_equalFlag left right
  exact operands_difference_lt (hinverted.reservedIndex_lt .one) (by omega)

theorem compare (hsystem : system.WellFormed) (hleft : left < system.numVars)
    (hright : right < system.numVars) : (system.compare left right).WellFormed := by
  have hinverted := hsystem.invertDifference hleft hright
  exact (hinverted.reserve .one).define (operands_compare_lt hinverted)

theorem addFlags (hsystem : system.WellFormed) (hleft : left < system.numVars)
    (hright : right < system.numVars) : (system.addFlags left right).WellFormed := by
  have hcompared := hsystem.compare hleft hright
  have hflag := system.equalFlag_lt_numVars_addFlags left right
  have hle := system.numVars_add_three_le_equalFlag left right
  apply (hcompared.reserve .zero).grow_row
  simp only [Row.product, Wires.toList, List.forall_mem_cons]
  rw [System.addFlags, numVars_grow, List.length_nil, Nat.add_zero] at hflag
  exact ⟨by omega, hflag, by omega, by omega, hcompared.reservedIndex_lt .zero,
    List.forall_mem_nil _⟩

theorem satisfied_reserve_compare (hsystem : system.WellFormed) (hleft : left < system.numVars)
    (hright : right < system.numVars) (assigned : Nat → Element F) :
    ((system.compare left right).reserve .zero).Satisfied assigned ↔
      system.Satisfied assigned ∧
        assigned system.numVars = assigned left - assigned right ∧
        assigned (system.numVars + 2) =
          assigned system.numVars * assigned (system.numVars + 1) ∧
        assigned ((system.invertDifference left right).reservedIndex .one) = 1 ∧
        assigned (system.equalFlag left right) =
          assigned ((system.invertDifference left right).reservedIndex .one) -
            assigned (system.numVars + 2) ∧
        assigned ((system.compare left right).reservedIndex .zero) = 0 := by
  have hseparated : (system.define (.difference left right)).WellFormed :=
    hsystem.define (operands_difference_lt hleft hright)
  have hinverted := hsystem.invertDifference hleft hright
  rw [(hsystem.compare hleft hright).satisfied_reserve, System.compare,
    (hinverted.reserve .one).satisfied_define, hinverted.satisfied_reserve,
    System.invertDifference, (hseparated.grow_values _).satisfied_define,
    hseparated.satisfied_grow, hsystem.satisfied_define, and_iff_left (List.forall_mem_nil _)]
  simp only [and_assoc]
  exact Iff.rfl

theorem satisfied_addFlags (hsystem : system.WellFormed) (hleft : left < system.numVars)
    (hright : right < system.numVars) (assigned : Nat → Element F) :
    (system.addFlags left right).Satisfied assigned ↔
      system.Satisfied assigned ∧ system.FlagsHold left right assigned := by
  rw [System.addFlags, ((hsystem.compare hleft hright).reserve .zero).satisfied_grow,
    hsystem.satisfied_reserve_compare hleft hright, List.forall_mem_singleton,
    Row.holds_product]
  constructor
  · rintro ⟨⟨hsatisfied, hdifference, hnotEqual, hone, hequal, hzero⟩, hproduct⟩
    exact ⟨hsatisfied, ⟨hdifference, hnotEqual, hequal, hproduct, hone, hzero⟩⟩
  · rintro ⟨hsatisfied, hflags⟩
    exact ⟨⟨hsatisfied, hflags.difference_eq, hflags.notEqual_eq, hflags.one_eq, hflags.equal_eq,
      hflags.zero_eq⟩, hflags.product_eq⟩

/-! ### What the stages store -/

theorem extends_reserve_compare (hsystem : system.WellFormed) (hphase : system.phase ≠ .proving)
    (hleft : left < system.numVars) (hright : right < system.numVars) :
    (system.invertDifference left right).Extends
      ((system.compare left right).reserve .zero) := by
  have hinverted := hsystem.invertDifference hleft hright
  have hcompared := hsystem.compare hleft hright
  have hone := extends_reserve (hinverted.length_witness hphase) .one
  have hequal := extends_define
    ((hinverted.reserve .one).length_witness (by rwa [phase_reserve]))
    (.difference ((system.invertDifference left right).reservedIndex .one) (system.numVars + 2))
  have hzero := extends_reserve (hcompared.length_witness (by rwa [phase_compare])) .zero
  exact (hone.trans hequal).trans hzero

/-- The inverse is stored with the value it is named for, and zero has the inverse zero. -/
theorem stored_inverse (hsystem : system.WellFormed) (hphase : system.phase ≠ .proving)
    (hleft : left < system.numVars) (hright : right < system.numVars) :
    (system.invertDifference left right).stored (system.numVars + 1) =
      ((system.invertDifference left right).stored system.numVars)⁻¹ := by
  have hseparated : (system.define (.difference left right)).WellFormed :=
    hsystem.define (operands_difference_lt hleft hright)
  have hinverse := hseparated.grow_values [(system.stored left - system.stored right)⁻¹]
  have hadd := added_in_grow (hseparated.length_witness hphase)
    (system.stored left - system.stored right)⁻¹
  have houtput := (output_in_define (hsystem.length_witness hphase)
    (.difference left right)).extends (extends_grow (hseparated.length_witness hphase)
      [(system.stored left - system.stored right)⁻¹] [])
  have hkeep : Extends _ (system.invertDifference left right) :=
    extends_define (hinverse.length_witness hphase) _
  calc (system.invertDifference left right).stored (system.numVars + 1)
      = (system.stored left - system.stored right)⁻¹ := (hadd.extends hkeep).value_eq.symm
    _ = ((system.invertDifference left right).stored system.numVars)⁻¹ :=
      congrArg _ (houtput.extends hkeep).value_eq

theorem honest_reserve_compare (hsystem : system.WellFormed) (hphase : system.phase ≠ .proving)
    (hleft : left < system.numVars) (hright : right < system.numVars) :
    ((system.compare left right).reserve .zero).Honest ↔ system.Honest := by
  have hseparated : (system.define (.difference left right)).WellFormed :=
    hsystem.define (operands_difference_lt hleft hright)
  have hinverted := hsystem.invertDifference hleft hright
  have hcompared := hsystem.compare hleft hright
  rw [hcompared.honest_reserve (by rwa [phase_compare]), System.compare,
    (hinverted.reserve .one).honest_define (by rwa [phase_reserve])
      (operands_compare_lt hinverted), hinverted.honest_reserve hphase, System.invertDifference,
    (hseparated.grow_values _).honest_define hphase (by simp [Formula.operands]),
    hseparated.honest_grow_values hphase,
    hsystem.honest_define hphase (operands_difference_lt hleft hright)]

/-- The values that are stored for the flags satisfy their rows. -/
theorem honest_addFlags (hsystem : system.WellFormed) (hphase : system.phase ≠ .proving)
    (hleft : left < system.numVars) (hright : right < system.numVars) :
    (system.addFlags left right).Honest ↔ system.Honest := by
  have hcompared := hsystem.compare hleft hright
  have hextends := hsystem.extends_reserve_compare hphase hleft hright
  have hinverse := hsystem.stored_inverse hphase hleft hright
  rw [System.addFlags, (hcompared.reserve .zero).honest_grow_row (by simpa using hphase),
    hsystem.honest_reserve_compare hphase hleft hright, and_iff_left_of_imp]
  intro hhonest
  have hrows := (hsystem.honest_reserve_compare hphase hleft hright).mpr hhonest
  obtain ⟨_, _, hnotEqual, hone, hequal, hzero⟩ :=
    (hsystem.satisfied_reserve_compare hleft hright _).mp hrows
  rw [← hextends.stored_eq _ (by rw [numVars_invertDifference]; omega),
    ← hextends.stored_eq _ (by rw [numVars_invertDifference]; omega)] at hinverse
  rw [Row.holds_product, hzero, hequal, hone, hnotEqual, hinverse, mul_sub, mul_one]
  generalize ((system.compare left right).reserve .zero).stored system.numVars = difference
  by_cases hdifference : difference = 0
  · rw [hdifference, zero_mul, sub_zero]
  · rw [mul_inv_cancel₀ hdifference, mul_one, sub_self]

end WellFormed

end System

namespace Emit

variable {system : System F} {left right : Variable F}

theorem run_reserveZero (system : System F) :
    reserveZero.run system = (⟨system.reservedIndex .zero, 0⟩, system.reserve .zero) := by
  obtain ⟨quotient, rows, numVars, bindings, witness, zeroVar?, oneVar?, phase⟩ := system
  cases zeroVar? with
  | none => rfl
  | some index => rfl

theorem run_reserveOne (system : System F) :
    reserveOne.run system = (⟨system.reservedIndex .one, 1⟩, system.reserve .one) := by
  obtain ⟨quotient, rows, numVars, bindings, witness, zeroVar?, oneVar?, phase⟩ := system
  cases oneVar? with
  | none => rfl
  | some index => rfl

theorem run_equation (left right : Variable F) (system : System F) :
    (equation left right).run system = ((), system.equate left.index right.index) := by
  rw [equation, run_bind, run_reserveZero, run_bind, run_addRow]
  rfl

theorem run_equalityFlags (hsystem : system.WellFormed) (hphase : system.phase ≠ .proving)
    (hleft : left.In system) (hright : right.In system) :
    (equalityFlags left right).run system =
      (⟨⟨system.equalFlag left.index right.index⟩, ⟨system.numVars + 2⟩⟩,
        system.addFlags left.index right.index) := by
  have hseparated : (system.define (.difference left.index right.index)).WellFormed :=
    hsystem.define (System.WellFormed.operands_difference_lt hleft.index_lt hright.index_lt)
  have hinverse := hseparated.grow_values
    [(system.stored left.index - system.stored right.index)⁻¹]
  have hinverted := hsystem.invertDifference hleft.index_lt hright.index_lt
  have hdiff := System.output_in_define (hsystem.length_witness hphase)
    (.difference left.index right.index)
  have hadded := System.added_in_grow (hseparated.length_witness hphase)
    (system.stored left.index - system.stored right.index)⁻¹
  have hnotEqual := System.output_in_define (hinverse.length_witness hphase)
    (.product system.numVars (system.numVars + 1))
  have hone := hinverted.reserved_in_reserve hphase .one
  -- every stage reads variables that the stages before it stored
  have hproduct := run_product
    (hdiff.extends (System.extends_grow (hseparated.length_witness hphase) _ _)) hadded
  have hequal := run_difference hone
    (hnotEqual.extends (System.extends_reserve (hinverted.length_witness hphase) .one))
  rw [equalityFlags, run_bind_of (run_difference hleft hright),
    run_bind_of (run_addVariable _ _)]
  refine (run_bind_of hproduct).trans ?_
  rw [run_bind_of (run_reserveOne _)]
  refine (run_bind_of hequal).trans ?_
  rw [run_bind_of (run_reserveZero _)]
  exact run_bind_of (run_addRow _ _)

end Emit

end Plonkish
