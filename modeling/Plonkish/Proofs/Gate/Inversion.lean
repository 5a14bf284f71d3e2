import Plonkish.Proofs.Field.Primality
import Plonkish.Proofs.Gate.Column

/-!
# Inverses of elements and of columns

The inverse of a single element is the multiplicative one, with zero for zero.  A column is
inverted as a whole.  It gives the column of the inverses of its entries exactly if none of
them is zero; a zero anywhere in it leaves the single element zero and nothing else.
-/

namespace Plonkish

namespace Operand

variable {F : BaseField} {values : List (Element F)}

theorem inverseOrZero_of_notMem (hzero : 0 ∉ values) :
    (column values).inverseOrZero = column (values.map Element.inverseOrZero) := by
  rw [inverseOrZero, if_neg (by rwa [List.contains_iff_mem])]

theorem inverseOrZero_of_mem (hzero : 0 ∈ values) : (column values).inverseOrZero = single 0 := by
  rw [inverseOrZero, if_pos (by rwa [List.contains_iff_mem])]

theorem inverseOrZero_column_eq_iff :
    (column values).inverseOrZero = column (values.map Element.inverseOrZero) ↔ 0 ∉ values := by
  refine ⟨fun hcolumn hzero => ?_, inverseOrZero_of_notMem⟩
  rw [inverseOrZero_of_mem hzero] at hcolumn
  cases hcolumn

/-- The entries of a column without zero are cancelled one by one. -/
theorem inverseOrZero_mul_of_notMem (hzero : 0 ∉ values) :
    (column values).inverseOrZero.mul (column values) =
      .ok (column (List.replicate values.length 1)) := by
  have hones : ∀ value ∈ values, value.inverseOrZero * value = 1 := by
    intro value hvalue
    rw [mul_comm]
    exact Element.mul_inverseOrZero (ne_of_mem_of_not_mem hvalue hzero)
  rw [inverseOrZero_of_notMem hzero, mul, combine,
    combineColumns_of_length_eq (List.length_map _), List.zipWith_map_left, List.zipWith_self,
    List.map_congr_left hones, List.map_const']
  rfl

/-- What a column with a zero leaves cancels no entry. -/
theorem inverseOrZero_mul_of_mem (hzero : 0 ∈ values) :
    (column values).inverseOrZero.mul (column values) =
      .ok (column (List.replicate values.length 0)) := by
  have hzeros : ∀ value ∈ values, (0 : Element F) * value = 0 := fun value _ => zero_mul value
  rw [inverseOrZero_of_mem hzero, mul, combine, List.map_congr_left hzeros, List.map_const']

theorem inverseOrZero_mul_eq_ones_iff :
    (column values).inverseOrZero.mul (column values) =
      .ok (column (List.replicate values.length 1)) ↔ 0 ∉ values := by
  refine ⟨fun hones hzero => ?_, inverseOrZero_mul_of_notMem⟩
  rw [inverseOrZero_mul_of_mem hzero, Except.ok.injEq, column.injEq, List.replicate_inj] at hones
  have hlength : values.length ≠ 0 := (List.length_pos_of_mem hzero).ne'
  exact hones.2.elim hlength zero_ne_one

/-- A single element is inverted, with zero for zero.  A column is inverted entry by entry,
and its inverse cancels it, exactly if it has no zero, whatever its length is.  With a zero
in it, it gives the single element zero. -/
theorem inverseOrZero_entrywise (F : BaseField) :
    (∀ value : Element F, (single value).inverseOrZero = single value.inverseOrZero ∧
      (value ≠ 0 → value.inverseOrZero * value = 1) ∧
      (value = 0 → value.inverseOrZero = 0)) ∧
    ∀ values : List (Element F),
      ((column values).inverseOrZero = column (values.map Element.inverseOrZero) ↔ 0 ∉ values) ∧
      ((column values).inverseOrZero.mul (column values) =
        .ok (column (List.replicate values.length 1)) ↔ 0 ∉ values) ∧
      (0 ∈ values → (column values).inverseOrZero = single 0) := by
  constructor
  · intro value
    refine ⟨rfl, fun hvalue => ?_, fun hvalue => ?_⟩
    · rw [mul_comm]
      exact Element.mul_inverseOrZero hvalue
    · rw [hvalue]
      exact Element.inverseOrZero_zero
  · intro values
    exact ⟨inverseOrZero_column_eq_iff, inverseOrZero_mul_eq_ones_iff, inverseOrZero_of_mem⟩

/-- A column of two and three, and one with a zero at its end. -/
theorem inverseOrZero_entrywise_two :
    (2 : Element .goldilocks) ≠ 0 ∧ (2 : Element .goldilocks).inverseOrZero * 2 = 1 ∧
      (0 : Element .goldilocks) ∉ [2, 3] ∧
      (column [2, 3] : Operand .goldilocks).inverseOrZero =
        column [9223372034707292161, 12297829379609722881] ∧
      (0 : Element .goldilocks) ∈ [2, 3, 0] ∧
      (column [2, 3, 0] : Operand .goldilocks).inverseOrZero = single 0 := by
  obtain ⟨hsingle, hcolumn⟩ := inverseOrZero_entrywise .goldilocks
  have htwo : (2 : Element .goldilocks) ≠ 0 := by decide +kernel
  have hnone : (0 : Element .goldilocks) ∉ [2, 3] := by decide +kernel
  have hsome : (0 : Element .goldilocks) ∈ [2, 3, 0] := by decide +kernel
  refine ⟨htwo, (hsingle 2).2.1 htwo, hnone, ?_, hsome, (hcolumn [2, 3, 0]).2.2 hsome⟩
  rw [(hcolumn [2, 3]).1.mpr hnone]
  decide +kernel

/-- A zero beside an element takes its inverse away. -/
theorem inverseOrZero_beside_zero :
    [2, 0].map (Element.inverseOrZero (F := .goldilocks)) = [9223372034707292161, 0] ∧
      (column [2, 0] : Operand .goldilocks).inverseOrZero = single 0 ∧
      ¬ ∀ values : List (Element .goldilocks),
        (column values).inverseOrZero = column (values.map Element.inverseOrZero) := by
  refine ⟨by decide +kernel, by decide +kernel, fun hall => ?_⟩
  exact inverseOrZero_column_eq_iff.mp (hall [2, 0]) (by decide +kernel)

end Operand

end Plonkish
