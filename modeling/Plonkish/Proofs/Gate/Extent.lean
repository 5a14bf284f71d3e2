import Mathlib.Data.Finset.Lattice.Fold
import Plonkish.Proofs.Gate.Column

/-!
# How far operands extend

Operands of different extents meet by repetition: a single element stands at every row, and
so does the only entry of a column with one.  Extents form a semilattice, in which the
extent of a combination is the join of the extents that meet, with a greatest extent for
columns whose lengths do not fit.  So it makes no difference in which order operands meet.
-/

namespace Plonkish

variable {F : BaseField}

/-- How far an operand extends. -/
inductive Extent where
  | single
  | column (length : Nat)
  /-- Columns were to be combined whose lengths do not fit. -/
  | mismatched
  deriving DecidableEq

namespace Extent

/-- The extent of a combination. -/
def join : Extent → Extent → Extent
  | single, other => other
  | other, single => other
  | column left, column right =>
    if left = 1 then column right
    else if right = 1 ∨ right = left then column left
    else mismatched
  | _, _ => mismatched

instance : Max Extent := ⟨join⟩

theorem join_comm (left right : Extent) : left ⊔ right = right ⊔ left := by
  cases left <;> cases right <;> simp only [max, join]
  grind

theorem join_assoc (first second third : Extent) :
    first ⊔ second ⊔ third = first ⊔ (second ⊔ third) := by
  cases first <;> cases second <;> cases third <;> simp only [max, join] <;> grind [join]

theorem join_self (extent : Extent) : extent ⊔ extent = extent := by
  cases extent <;> simp [max, join]

instance : SemilatticeSup Extent := SemilatticeSup.mk' join_comm join_assoc join_self

instance : OrderBot Extent where
  bot := single
  bot_le other := sup_eq_right.mp (by cases other <;> rfl)

instance : OrderTop Extent where
  top := mismatched
  le_top other := sup_eq_right.mp (by cases other <;> rfl)

theorem column_le_column_iff {left right : Nat} :
    column left ≤ column right ↔ left = 1 ∨ left = right := by
  rw [← sup_eq_right]
  change join _ _ = _ ↔ _
  grind [join]

theorem column_sup_column_eq_mismatched_iff {left right : Nat} :
    column left ⊔ column right = mismatched ↔ left ≠ 1 ∧ right ≠ 1 ∧ left ≠ right := by
  change join _ _ = _ ↔ _
  grind [join]

theorem not_column_le_single (length : Nat) : ¬ column length ≤ single := by
  rw [← sup_eq_right]
  exact nofun

/-- An operand of the extent has an entry at the row. -/
def Covers : Extent → Nat → Prop
  | single, _ => True
  | column length, row => length = 1 ∨ row < length
  | mismatched, _ => False

/-- What is combined with others extends at least as far as they do together. -/
theorem Covers.of_le {smaller larger : Extent} {row : Nat} (hcovers : larger.Covers row)
    (hle : smaller ≤ larger) : smaller.Covers row := by
  cases smaller with
  | single => trivial
  | mismatched =>
      obtain rfl : larger = mismatched := top_le_iff.mp hle
      exact hcovers
  | column length =>
      cases larger with
      | single => exact absurd hle (not_column_le_single length)
      | mismatched => exact hcovers.elim
      | column other =>
          rcases column_le_column_iff.mp hle with hone | hsame
          · exact .inl hone
          · exact hsame ▸ hcovers

end Extent

/-! ### Combinations of two columns -/

section Columns

variable {operation : Element F → Element F → Element F} {lefts rights : List (Element F)}

theorem combineColumns_of_length_left (hleft : lefts.length = 1) :
    combineColumns operation lefts rights =
      .ok (rights.map fun right => operation (lefts.getD 0 0) right) := by
  obtain ⟨left, rfl⟩ := List.length_eq_one_iff.mp hleft
  unfold combineColumns
  rfl

theorem combineColumns_of_length_right (hleft : lefts.length ≠ 1) (hright : rights.length = 1) :
    combineColumns operation lefts rights =
      .ok (lefts.map fun left => operation left (rights.getD 0 0)) := by
  obtain ⟨right, rfl⟩ := List.length_eq_one_iff.mp hright
  unfold combineColumns
  split
  · exact absurd rfl hleft
  · next h => cases h; rfl
  · next hnone => exact absurd rfl (hnone right)

theorem combineColumns_of_length_ne (hleft : lefts.length ≠ 1) (hright : rights.length ≠ 1)
    (hne : lefts.length ≠ rights.length) :
    combineColumns operation lefts rights = .error (.input .lengthMismatch) := by
  unfold combineColumns
  split
  · exact absurd rfl hleft
  · exact absurd rfl hright
  · exact if_neg hne

end Columns

namespace Operand

def extent : Operand F → Extent
  | single _ => .single
  | column values => .column values.length

/-- The entry at a row.  A single element and the only entry of a column stand at every row. -/
def atRow (row : Nat) : Operand F → Element F
  | single value => value
  | column values => values.getD (if values.length = 1 then 0 else row) 0

theorem position_lt {values : List (Element F)} {row : Nat}
    (hcovers : (Extent.column values.length).Covers row) :
    (if values.length = 1 then 0 else row) < values.length := by
  split
  · omega
  · exact hcovers.resolve_left ‹_›

theorem atRow_of_length_eq_one {values : List (Element F)} (hone : values.length = 1) (row : Nat) :
    (column values).atRow row = values.getD 0 0 := by
  rw [atRow, if_pos hone]

theorem atRow_of_getElem? {values : List (Element F)} {row : Nat} {value : Element F}
    (hvalue : values[row]? = some value) : (column values).atRow row = value := by
  obtain ⟨hlt, rfl⟩ := List.getElem?_eq_some_iff.mp hvalue
  rw [atRow]
  split
  · next hone =>
      obtain ⟨only, rfl⟩ := List.length_eq_one_iff.mp hone
      obtain rfl : row = 0 := by simpa using hlt
      rfl
  · exact List.getD_eq_getElem _ _ hlt

theorem atRow_column_map (operation : Element F → Element F) {values : List (Element F)} {row : Nat}
    (hcovers : (Extent.column values.length).Covers row) :
    (column (values.map operation)).atRow row = operation ((column values).atRow row) := by
  have hlt := position_lt hcovers
  simp only [atRow, List.length_map]
  rw [List.getD_eq_getElem _ _ hlt, List.getD_eq_getElem _ _ (by rwa [List.length_map]),
    List.getElem_map]

theorem extent_map (operation : Element F → Element F) (operand : Operand F) :
    (operand.map operation).extent = operand.extent := by
  cases operand with
  | single => rfl
  | column values => rw [map, extent, List.length_map, extent]

theorem atRow_map (operation : Element F → Element F) {operand : Operand F} {row : Nat}
    (hcovers : operand.extent.Covers row) :
    (operand.map operation).atRow row = operation (operand.atRow row) := by
  cases operand with
  | single => rfl
  | column values => exact atRow_column_map operation hcovers

/-- The operand extends over the join of two extents, and each of its entries is made of the
entries of the two operands. -/
structure IsCombination (operation : Element F → Element F → Element F)
    (left right result : Operand F) : Prop where
  extent_eq : result.extent = left.extent ⊔ right.extent
  atRow_eq : ∀ row, result.extent.Covers row →
    result.atRow row = operation (left.atRow row) (right.atRow row)

theorem combine_eq_ok {left right : Operand F}
    (operation : Element F → Element F → Element F)
    (hfits : left.extent ⊔ right.extent ≠ .mismatched) :
    ∃ result, combine operation left right = .ok result ∧
      IsCombination operation left right result := by
  match left, right with
  | single value, single other => exact ⟨_, rfl, rfl, fun _ _ => rfl⟩
  | single value, column rights =>
      refine ⟨(column rights).map (operation value), rfl, extent_map _ _, fun row hcovers => ?_⟩
      exact atRow_map _ (extent_map _ _ ▸ hcovers)
  | column lefts, single other =>
      refine ⟨(column lefts).map (operation · other), rfl, extent_map _ _, fun row hcovers => ?_⟩
      exact atRow_map _ (extent_map _ _ ▸ hcovers)
  | column lefts, column rights =>
      rw [combine]
      by_cases hleft : lefts.length = 1
      · rw [combineColumns_of_length_left hleft]
        refine ⟨(column rights).map (operation (lefts.getD 0 0)), rfl, ?_, fun row hcovers => ?_⟩
        · exact (extent_map _ _).trans
            (sup_eq_right.mpr (Extent.column_le_column_iff.mpr (.inl hleft))).symm
        · rw [atRow_map _ (extent_map _ _ ▸ hcovers), atRow_of_length_eq_one hleft]
      by_cases hright : rights.length = 1
      · rw [combineColumns_of_length_right hleft hright]
        refine ⟨(column lefts).map (operation · (rights.getD 0 0)), rfl, ?_, fun row hcovers => ?_⟩
        · exact (extent_map _ _).trans
            (sup_eq_left.mpr (Extent.column_le_column_iff.mpr (.inl hright))).symm
        · rw [atRow_map _ (extent_map _ _ ▸ hcovers), atRow_of_length_eq_one hright]
      have hsame : lefts.length = rights.length := by
        by_contra hne
        exact hfits (Extent.column_sup_column_eq_mismatched_iff.mpr ⟨hleft, hright, hne⟩)
      have hzip : (List.zipWith operation lefts rights).length = lefts.length := by
        rw [List.length_zipWith, hsame, min_self]
      rw [combineColumns_of_length_eq hsame]
      refine ⟨column (List.zipWith operation lefts rights), rfl, ?_, fun row hcovers => ?_⟩
      · simp only [extent, hzip, hsame, sup_idem]
      · have hlt := position_lt hcovers
        simp only [atRow, hzip, if_neg hleft, if_neg hright] at hlt ⊢
        rw [List.getD_eq_getElem _ _ (hzip.symm ▸ hlt), List.getD_eq_getElem _ _ hlt,
          List.getD_eq_getElem _ _ (hsame ▸ hlt), List.getElem_zipWith]

theorem combine_eq_error {left right : Operand F}
    (operation : Element F → Element F → Element F)
    (hmismatched : left.extent ⊔ right.extent = .mismatched) :
    combine operation left right = .error (.input .lengthMismatch) := by
  match left, right with
  | single _, single _ | single _, column _ | column _, single _ => cases hmismatched
  | column lefts, column rights =>
      obtain ⟨hleft, hright, hne⟩ := Extent.column_sup_column_eq_mismatched_iff.mp hmismatched
      rw [combine, combineColumns_of_length_ne hleft hright hne]
      rfl

end Operand

end Plonkish
