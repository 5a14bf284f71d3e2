import Plonkish.Proofs.Gadget.RangeCheck

/-!
# Accumulators of a range check

A range check writes a number by its binary digits and puts them together from the most
significant one downwards.  Each accumulator stands for the number that is written by the
digits so far, which is the number without its remaining digits.  Numbers that stand for
one element and differ in one digit at most are the same, since the order of the field is
odd.
-/

namespace Plonkish

variable {F : BaseField}

open Element

namespace Element

theorem ofBit_testBit (number position : Nat) :
    ofBit F (number.testBit position) = ((number / 2 ^ position % 2 : Nat) : Element F) := by
  rw [← ofBit_testBit_zero, Nat.testBit_div_two_pow, Nat.zero_add]

theorem reverse_digits_succ (number count : Nat) :
    (digits F number (count + 1)).reverse =
      ((number / 2 ^ count % 2 : Nat) : Element F) :: (digits F number count).reverse := by
  rw [digits, List.range_succ, List.map_append, List.reverse_append, ← digits, List.map_singleton,
    ofBit_testBit]
  rfl

theorem two_pow_ne_zero (exponent : Nat) : (2 : Element F) ^ exponent ≠ 0 := by
  apply pow_ne_zero
  intro htwo
  have hval := congrArg Element.val htwo
  revert hval
  cases F <;> decide

/-- A number around one of its digits. -/
theorem natCast_split (number place : Nat) :
    (number : Element F) = 2 ^ place * (2 * ((number / 2 ^ place / 2 : Nat) : Element F) +
      ofBit F (number.testBit place)) + ((number % 2 ^ place : Nat) : Element F) := by
  rw [ofBit_testBit]
  conv_lhs => rw [← Nat.div_add_mod number (2 ^ place), ← Nat.div_add_mod (number / 2 ^ place) 2]
  push_cast
  rfl

/-- Numbers that stand for one element cannot differ in a single digit. -/
theorem eq_of_testBit_eq_off {left right place : Nat} (hcast : (left : Element F) = right)
    (hagree : ∀ position, position ≠ place → left.testBit position = right.testBit position) :
    left = right := by
  have hlow : left % 2 ^ place = right % 2 ^ place := by
    apply Nat.eq_of_testBit_eq
    intro position
    rw [Nat.testBit_mod_two_pow, Nat.testBit_mod_two_pow]
    by_cases hposition : position < place
    · rw [hagree position hposition.ne]
    · rw [decide_eq_false hposition, Bool.false_and, Bool.false_and]
  have hhigh : left / 2 ^ place / 2 = right / 2 ^ place / 2 := by
    apply Nat.eq_of_testBit_eq
    intro position
    rw [Nat.div_div_eq_div_mul, Nat.div_div_eq_div_mul, ← pow_succ, Nat.testBit_div_two_pow,
      Nat.testBit_div_two_pow]
    exact hagree _ (by omega)
  have hdigit : ofBit F (left.testBit place) = ofBit F (right.testBit place) := by
    apply mul_left_cancel₀ (two_pow_ne_zero place)
    rw [natCast_split left place, natCast_split right place, hlow, hhigh] at hcast
    linear_combination hcast
  apply Nat.eq_of_testBit_eq
  intro position
  by_cases hposition : position = place
  · rw [hposition, ofBit_injective hdigit]
  · exact hagree position hposition

end Element

/-- Three digits are taken in at a time. -/
theorem natCast_take_three (number count : Nat) :
    ((number / 2 ^ count : Nat) : Element F) =
      .ofNat F 8 * ((number / 2 ^ (count + 3) : Nat) : Element F) +
        .ofNat F 4 * ((number / 2 ^ (count + 2) % 2 : Nat) : Element F) +
        .ofNat F 2 * ((number / 2 ^ (count + 1) % 2 : Nat) : Element F) +
        1 * ((number / 2 ^ count % 2 : Nat) : Element F) := by
  have hsplit : number / 2 ^ count = 8 * (number / 2 ^ (count + 3)) +
      4 * (number / 2 ^ (count + 2) % 2) + 2 * (number / 2 ^ (count + 1) % 2) +
      1 * (number / 2 ^ count % 2) := by
    simp only [pow_add, ← Nat.div_div_eq_div_mul]
    omega
  simp only [ofNat_eq_natCast]
  conv_lhs => rw [hsplit]
  push_cast
  rfl

/-- Below the digits above them, the digits of a number give accumulators that stand for
the number without what remains. -/
theorem recomposeValues_digits (number : Nat) : ∀ count,
    recomposeValues ((number / 2 ^ count : Nat) : Element F) (digits F number count).reverse =
      (List.range ((count - 1) / 3)).map fun step =>
        ((number / 2 ^ (count - 3 - 3 * step) : Nat) : Element F)
  | 0 | 1 | 2 | 3 => by
      simp [digits, List.range_succ, recomposeValues]
  | count + 4 => by
      have hsteps : (count + 4 - 1) / 3 = (count + 1 - 1) / 3 + 1 := by omega
      rw [reverse_digits_succ, reverse_digits_succ, reverse_digits_succ, reverse_digits_succ,
        recomposeValues, ← natCast_take_three, ← reverse_digits_succ,
        recomposeValues_digits number (count + 1), hsteps, List.range_succ_eq_map, List.map_cons,
        List.map_map, List.cons.injEq]
      refine ⟨rfl, List.map_congr_left fun step _ => ?_⟩
      have hremaining : count + 1 - 3 - 3 * step = count + 4 - 3 - 3 * step.succ := by omega
      rw [Function.comp_apply, hremaining]

/-- The new variables of a range check are the digits of a number and then, for each
accumulator, the number that the digits so far write. -/
theorem digitValues_eq {number count : Nat} (hcount : 2 ≤ count) (hlt : number < 2 ^ count) :
    digitValues F number count = digits F number count ++
      (List.range ((count - 2) / 3)).map fun step =>
        ((number / 2 ^ (count - 4 - 3 * step) : Nat) : Element F) := by
  obtain ⟨lower, rfl⟩ : ∃ lower, count = lower + 1 := ⟨count - 1, by omega⟩
  have htop : number / 2 ^ lower % 2 = number / 2 ^ lower :=
    Nat.mod_eq_of_lt (Nat.div_lt_of_lt_mul (by rwa [← pow_succ]))
  rw [digitValues, reverse_digits_succ, htop]
  simp only [recomposeValues_digits]
  rfl

end Plonkish
