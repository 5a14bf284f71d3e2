import Plonkish.Proofs.Gadget.Equality

/-!
# Witnesses of equality flags

Any value may be chosen for the inverse: with the values that follow from it all rows of
the flags hold but the last.  The last row holds exactly if the compared variables are
equal or the inverse is that of their difference.  So it is what keeps a prover from
claiming that two different variables are equal.
-/

namespace Plonkish

variable {F : BaseField}

namespace System

/-! ### Where the new variables are -/

section Positions

variable {system : System F} {left right : Nat}

theorem reserved?_invertDifference (constant : Reserved) :
    (system.invertDifference left right).reserved? constant = system.reserved? constant := by
  cases constant <;> rfl

theorem reserved?_compare_zero :
    (system.compare left right).reserved? .zero = system.reserved? .zero := by
  rw [compare, define, reserved?_grow,
    reserved?_reserve_of_ne _ (show Reserved.zero ≠ .one by decide), reserved?_invertDifference]

/-- A new variable for one comes right before the flag for equality. -/
theorem positions_one_of_none (hfresh : system.reserved? .one = none) :
    (system.invertDifference left right).reservedIndex .one = system.numVars + 3 ∧
      system.equalFlag left right = system.numVars + 4 := by
  have hinverted : (system.invertDifference left right).reserved? .one = none := by
    rw [reserved?_invertDifference, hfresh]
  constructor
  · rw [reservedIndex_of_none hinverted, numVars_invertDifference]
  · rw [equalFlag, reserve_of_none hinverted, numVars_remember, numVars_grow,
      numVars_invertDifference]
    rfl

theorem position_zero_of_none (hfresh : system.reserved? .zero = none) :
    (system.compare left right).reservedIndex .zero = system.equalFlag left right + 1 := by
  rw [reservedIndex_of_none (reserved?_compare_zero.trans hfresh), numVars_compare]

end Positions

/-! ### Values for the new variables -/

section WithFlags

variable (system : System F) (left right : Nat) (assigned : Nat → Element F) (inverse : Element F)

/-- An assignment continued to the variables of the flags, with the given value for the
inverse. -/
def withFlags (index : Nat) : Element F :=
  let difference := assigned left - assigned right
  if index < system.numVars then assigned index
  else if index = system.numVars then difference
  else if index = system.numVars + 1 then inverse
  else if index = system.numVars + 2 then difference * inverse
  else if index = system.equalFlag left right then 1 - difference * inverse
  else if index = (system.invertDifference left right).reservedIndex .one then 1
  else 0

variable {system left right assigned inverse}

theorem withFlags_of_lt {index : Nat} (hindex : index < system.numVars) :
    system.withFlags left right assigned inverse index = assigned index :=
  if_pos hindex

theorem withFlags_difference :
    system.withFlags left right assigned inverse system.numVars =
      assigned left - assigned right := by
  simp [withFlags]

theorem withFlags_inverse :
    system.withFlags left right assigned inverse (system.numVars + 1) = inverse := by
  simp [withFlags]

theorem withFlags_notEqual :
    system.withFlags left right assigned inverse (system.numVars + 2) =
      (assigned left - assigned right) * inverse := by
  simp [withFlags]

theorem withFlags_of_le {index : Nat} (hindex : system.numVars + 3 ≤ index) :
    system.withFlags left right assigned inverse index =
      if index = system.equalFlag left right then 1 - (assigned left - assigned right) * inverse
      else if index = (system.invertDifference left right).reservedIndex .one then 1 else 0 := by
  rw [withFlags, if_neg (by omega), if_neg (by omega), if_neg (by omega), if_neg (by omega)]

theorem withFlags_equal :
    system.withFlags left right assigned inverse (system.equalFlag left right) =
      1 - (assigned left - assigned right) * inverse := by
  rw [withFlags_of_le (system.numVars_add_three_le_equalFlag left right), if_pos rfl]

variable (system left right) in
/-- The row that does not let the flag for equality be set where the difference is not
zero. -/
def lastFlagRow : Row F :=
  .product system.numVars (system.equalFlag left right)
    ((system.compare left right).reservedIndex .zero)

theorem rows_addFlags :
    (system.addFlags left right).rows =
      ((system.compare left right).reserve .zero).rows ++ [system.lastFlagRow left right] := rfl

variable (hsystem : system.WellFormed) (hassigned : system.Satisfied assigned)

include hsystem hassigned

theorem withFlags_one :
    system.withFlags left right assigned inverse
      ((system.invertDifference left right).reservedIndex .one) = 1 := by
  cases hreserved : system.reserved? .one with
  | some index =>
      rw [reservedIndex_of_some ((reserved?_invertDifference .one).trans hreserved),
        withFlags_of_lt (hsystem.reserved_lt hreserved)]
      exact hsystem.assigned_reserved hassigned hreserved
  | none =>
      obtain ⟨hone, hequal⟩ := positions_one_of_none hreserved
      rw [withFlags_of_le hone.ge, if_neg (by rw [hone, hequal]; omega), if_pos rfl]

variable (hleft : left < system.numVars) (hright : right < system.numVars)

include hleft hright

theorem withFlags_zero :
    system.withFlags left right assigned inverse
      ((system.compare left right).reservedIndex .zero) = 0 := by
  cases hreserved : system.reserved? .zero with
  | some index =>
      rw [reservedIndex_of_some (reserved?_compare_zero.trans hreserved),
        withFlags_of_lt (hsystem.reserved_lt hreserved)]
      exact hsystem.assigned_reserved hassigned hreserved
  | none =>
      have hle := system.numVars_add_three_le_equalFlag left right
      have hone : (system.invertDifference left right).reservedIndex .one <
          system.equalFlag left right :=
        (hsystem.invertDifference hleft hright).reservedIndex_lt .one
      rw [position_zero_of_none hreserved, withFlags_of_le (by omega), if_neg (by omega),
        if_neg (by omega)]

/-- Whatever is chosen for the inverse, all rows hold but the last. -/
theorem satisfied_reserve_compare_withFlags :
    ((system.compare left right).reserve .zero).Satisfied
      (system.withFlags left right assigned inverse) := by
  rw [hsystem.satisfied_reserve_compare hleft hright, withFlags_difference, withFlags_inverse,
    withFlags_notEqual, withFlags_equal, withFlags_one hsystem hassigned,
    withFlags_zero hsystem hassigned hleft hright, withFlags_of_lt hleft, withFlags_of_lt hright]
  refine ⟨?_, rfl, rfl, rfl, rfl, rfl⟩
  rw [hsystem.satisfied_congr fun index hindex => withFlags_of_lt hindex]
  exact hassigned

/-- The last row holds exactly if the compared variables are equal or the inverse is that
of their difference. -/
theorem holds_lastFlagRow_iff :
    (system.lastFlagRow left right).Holds (system.withFlags left right assigned inverse) ↔
      assigned left = assigned right ∨ (assigned left - assigned right) * inverse = 1 := by
  rw [lastFlagRow, Row.holds_product, withFlags_zero hsystem hassigned hleft hright,
    withFlags_difference, withFlags_equal, zero_eq_mul, sub_eq_zero, sub_eq_zero,
    eq_comm (a := 1)]

theorem satisfied_addFlags_withFlags
    (hinverse : assigned left = assigned right ∨ (assigned left - assigned right) * inverse = 1) :
    (system.addFlags left right).Satisfied (system.withFlags left right assigned inverse) := by
  rw [addFlags, ((hsystem.compare hleft hright).reserve .zero).satisfied_grow,
    List.forall_mem_singleton]
  exact ⟨satisfied_reserve_compare_withFlags hsystem hassigned hleft hright,
    (holds_lastFlagRow_iff hsystem hassigned hleft hright).mpr hinverse⟩

/-- Flags that hold keep their values, whatever the inverse is, but for the inverse and
the flags themselves. -/
theorem FlagsHold.withFlags_eq (hflags : system.FlagsHold left right assigned) {index : Nat}
    (hindex : index < (system.addFlags left right).numVars)
    (hinverse : index ≠ system.numVars + 1) (hnotEqual : index ≠ system.numVars + 2)
    (hequal : index ≠ system.equalFlag left right) :
    system.withFlags left right assigned inverse index = assigned index := by
  by_cases hold : index < system.numVars
  · exact withFlags_of_lt hold
  · rcases new_of_addFlags (Nat.not_lt.mp hold) hindex with rfl | rfl | rfl | rfl | rfl | rfl
    · rw [withFlags_difference, hflags.difference_eq]
    · exact absurd rfl hinverse
    · exact absurd rfl hnotEqual
    · rw [withFlags_one hsystem hassigned, hflags.one_eq]
    · exact absurd rfl hequal
    · rw [withFlags_zero hsystem hassigned hleft hright, hflags.zero_eq]

end WithFlags

end System

end Plonkish
