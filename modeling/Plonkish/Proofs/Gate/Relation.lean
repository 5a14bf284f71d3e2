import Mathlib.Algebra.GroupWithZero.Idempotent
import Mathlib.Tactic.LinearCombination
import Plonkish.Gate.Row
import Plonkish.Proofs.Field.Primality

/-!
# The relation that a row expresses

A row holds for an assignment of elements to variables if its gate equation
vanishes there, with zero as public value.  For each kind of row this is the
relation it is named for.  Wires that a relation does not need carry a zero
weight, so the variable on them plays no part.
-/

namespace Plonkish

variable {F : BaseField}

namespace Wires

variable {α β : Type}

theorem toList_injective : Function.Injective (toList : Wires α → List α) := by
  intro left right heq
  have hoption := congrArg ofList? heq
  rwa [ofList?_toList, ofList?_toList, Option.some.injEq] at hoption

theorem map_congr {wires : Wires α} {left right : α → β}
    (hentries : ∀ entry ∈ wires.toList, left entry = right entry) :
    wires.map left = wires.map right := by
  simp only [toList, List.forall_mem_cons] at hentries
  obtain ⟨h1, h2, h3, h4, ho, _⟩ := hentries
  rw [map, map, h1, h2, h3, h4, ho]

end Wires

theorem Selectors.toList_injective {α : Type} :
    Function.Injective (toList : Selectors α → List α) := by
  intro left right heq
  have hoption := congrArg ofList? heq
  rwa [ofList?_toList, ofList?_toList, Option.some.injEq] at hoption

namespace Row

/-- The gate equation of the row vanishes at the assigned values. -/
def Holds (row : Row F) (assigned : Nat → Element F) : Prop :=
  Gate.residual (row.wires.map assigned) row.selectors 0 = 0

instance (row : Row F) (assigned : Nat → Element F) : Decidable (row.Holds assigned) :=
  inferInstanceAs (Decidable (_ = _))

theorem holds_congr {row : Row F} {left right : Nat → Element F}
    (hwires : ∀ index ∈ row.wires.toList, left index = right index) :
    row.Holds left ↔ row.Holds right := by
  rw [Holds, Holds, Wires.map_congr hwires]

theorem holds_linear (w1 w2 w3 w4 output : Nat) (q1 q2 q3 q4 : Element F)
    (assigned : Nat → Element F) :
    (linear w1 w2 w3 w4 output q1 q2 q3 q4).Holds assigned ↔
      assigned output =
        q1 * assigned w1 + q2 * assigned w2 + q3 * assigned w3 + q4 * assigned w4 := by
  simp only [Holds, Gate.residual, linear, Selectors.linear, Selectors.zero, Wires.map]
  constructor <;> intro h <;> linear_combination -h

theorem holds_sum (left right output : Nat) (assigned : Nat → Element F) :
    (sum left right output).Holds assigned ↔
      assigned output = assigned left + assigned right := by
  rw [sum, holds_linear, one_mul, one_mul, zero_mul, add_zero, add_zero]

theorem holds_difference (left right output : Nat) (assigned : Nat → Element F) :
    (difference left right output).Holds assigned ↔
      assigned output = assigned left - assigned right := by
  rw [difference, holds_linear, one_mul, neg_one_mul, zero_mul, add_zero, add_zero,
    sub_eq_add_neg]

theorem holds_product (left right output : Nat) (assigned : Nat → Element F) :
    (product left right output).Holds assigned ↔
      assigned output = assigned left * assigned right := by
  simp only [Holds, Gate.residual, product, Selectors.product, Selectors.zero, Wires.map]
  constructor <;> intro h <;> linear_combination -h

/-- Only zero and one are their own squares, since the elements form a field. -/
theorem holds_boolean (index : Nat) (assigned : Nat → Element F) :
    (boolean index).Holds assigned ↔ assigned index = 0 ∨ assigned index = 1 := by
  rw [boolean, holds_product, eq_comm]
  exact IsIdempotentElem.iff_eq_zero_or_one

theorem holds_selection (bit var0 var1 output : Nat) (assigned : Nat → Element F) :
    (selection bit var0 var1 output).Holds assigned ↔
      assigned output =
        assigned var0 + assigned bit * (assigned var1 - assigned var0) := by
  simp only [Holds, Gate.residual, selection, Selectors.selection, Selectors.zero, Wires.map]
  constructor <;> intro h <;> linear_combination -h

theorem holds_padding (assigned : Nat → Element F) : (padding : Row F).Holds assigned := by
  simp only [Holds, Gate.residual, padding, Selectors.zero, Wires.map, Wires.replicate]
  ring

/-- With a public value, a constant row forces the variable to be the constant
plus that value. -/
theorem residual_constant (index : Nat) (value publicValue : Element F)
    (assigned : Nat → Element F) :
    Gate.residual ((constant index value).wires.map assigned) (constant index value).selectors
        publicValue = value + publicValue - assigned index := by
  simp only [Gate.residual, constant, Selectors.constant, Selectors.zero, Wires.map,
    Wires.replicate]
  ring

theorem holds_constant (index : Nat) (value : Element F) (assigned : Nat → Element F) :
    (constant index value).Holds assigned ↔ assigned index = value := by
  rw [Holds, residual_constant, add_zero, sub_eq_zero, eq_comm]

end Row

end Plonkish
