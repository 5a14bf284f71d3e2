import Plonkish.Proofs.Matrix.Residuals

/-!
# Verification against residuals

Verification goes through the rows one by one and stops at the first that fails;
the residuals come from all rows at once and are never compared with the witness.
The two agree row by row, but for bindings that do not match.
-/

namespace Plonkish

variable {F : BaseField}

namespace ConstraintMatrix

variable {matrix : ConstraintMatrix F} {selectors : List (List (Element F))}
  {witness inputs residuals : List (Element F)} {given givenInputs : Value}

/-- A binding of the row does not match, or the residual of the row is not zero. -/
def FailsAt (witness : List (Element F)) (bindings : List (PublicBinding F))
    (residuals : List (Element F)) (row : Nat) : Prop :=
  (∃ binding ∈ bindings, binding.row = (row : Int) ∧ Mismatched witness binding) ∨
    ∃ residual, residuals[row]? = some residual ∧ residual ≠ 0

instance (witness : List (Element F)) (bindings : List (PublicBinding F))
    (residuals : List (Element F)) (row : Nat) :
    Decidable (FailsAt witness bindings residuals row) :=
  inferInstanceAs (Decidable (_ ∨ ∃ residual, residual ∈ residuals[row]? ∧ residual ≠ 0))

/-- No row fails exactly if all residuals vanish and every binding matches. -/
theorem forall_not_failsAt_iff (hmatrix : matrix.WellShaped selectors) :
    (∀ row, ¬ FailsAt witness (matrix.publicBindings inputs) residuals row) ↔
      (∀ (row : Nat) residual, residuals[row]? = some residual → residual = 0) ∧
        ∀ binding ∈ matrix.publicBindings inputs, ¬ Mismatched witness binding := by
  constructor
  · intro hpass
    constructor
    · intro row residual hresidual
      by_contra hne
      exact hpass row (Or.inr ⟨residual, hresidual, hne⟩)
    · intro binding hbinding hmismatch
      have hnonneg := (row_lt_of_mem_publicBindings hmatrix binding hbinding).1
      exact hpass binding.row.toNat
        (Or.inl ⟨binding, hbinding, (Int.toNat_of_nonneg hnonneg).symm, hmismatch⟩)
  · rintro ⟨hzero, hmatch⟩ row (⟨binding, hbinding, _, hmismatch⟩ | ⟨residual, hresidual, hne⟩)
    · exact hmatch binding hbinding hmismatch
    · exact hne (hzero row residual hresidual)

theorem row?_rejectionAt {bindings : List (PublicBinding F)} {residual : Element F} {row : Nat} :
    (matrix.rejectionAt selectors witness bindings residual row).row? = some row := by
  rw [rejectionAt]
  cases mismatch? witness bindings row <;> rfl

theorem failsAt_iff {bindings : List (PublicBinding F)} {row : Nat} {residual : Element F}
    (hrow : residuals[row]? = some residual) :
    FailsAt witness bindings residuals row ↔
      (mismatch? witness bindings row).isSome ∨ residual ≠ 0 := by
  rw [FailsAt, mismatch?_isSome_iff, hrow]
  simp only [Option.some.injEq, exists_eq_left']

section Verdict

variable (hmatrix : matrix.WellShaped selectors)
  (hsupplies : matrix.Supplies given givenInputs witness inputs)
  (hresiduals : matrix.residuals given givenInputs = .ok residuals)

include hmatrix hsupplies hresiduals

theorem FailsAt.lt_length {row : Nat}
    (hfails : FailsAt witness (matrix.publicBindings inputs) residuals row) :
    row < residuals.length := by
  rcases hfails with ⟨binding, hbinding, hrow, _⟩ | ⟨residual, hresidual, _⟩
  · have hlt := (row_lt_of_mem_publicBindings hmatrix binding hbinding).2
    have hlength := length_residuals hmatrix hsupplies hresiduals
    omega
  · exact (List.getElem?_eq_some_iff.mp hresidual).1

/-- The check of a row with the residual that the columns give it. -/
theorem checkRow_of_residuals {row : Nat} {residual : Element F}
    (hrow : residuals[row]? = some residual) :
    matrix.checkRow selectors witness (matrix.publicBindings inputs) row =
      if FailsAt witness (matrix.publicBindings inputs) residuals row then
        .error (.rejected
          (matrix.rejectionAt selectors witness (matrix.publicBindings inputs) residual row))
      else .ok () := by
  have hlt := (List.getElem?_eq_some_iff.mp hrow).1
  have hsize : (row : Int) < matrix.size := by
    rw [← length_residuals hmatrix hsupplies hresiduals]
    omega
  rw [checkRow_eq hmatrix hsupplies.length_witness (boundVar_lt_of_mem_publicBindings hmatrix)
    hsize (residualOfLists_eq_ok hmatrix hsupplies hresiduals hrow)]
  simp only [failsAt_iff hrow]

/-- Verification ends at the least row that fails. -/
theorem verify_eq_error_of_isLeast {row : Nat} {residual : Element F}
    (hleast : IsLeast {row | FailsAt witness (matrix.publicBindings inputs) residuals row} row)
    (hrow : residuals[row]? = some residual) :
    matrix.verify given givenInputs = .error (.rejected
      (matrix.rejectionAt selectors witness (matrix.publicBindings inputs) residual row)) := by
  have hlt := hleast.1.lt_length hmatrix hsupplies hresiduals
  have hlength := length_residuals hmatrix hsupplies hresiduals
  rw [verify_eq_checkRows hmatrix hsupplies]
  apply checkRows_eq_error (Nat.zero_le row) (by omega)
  · intro earlier _ hearlier
    rw [checkRow_of_residuals hmatrix hsupplies hresiduals
      (List.getElem?_eq_getElem (hearlier.trans hlt)), if_neg]
    exact fun hfails => Nat.not_le_of_gt hearlier (hleast.2 hfails)
  · rw [checkRow_of_residuals hmatrix hsupplies hresiduals hrow]
    exact if_pos hleast.1

theorem verify_eq_ok_of_forall
    (hnone : ∀ row, ¬ FailsAt witness (matrix.publicBindings inputs) residuals row) :
    matrix.verify given givenInputs = .ok () := by
  have hlength := length_residuals hmatrix hsupplies hresiduals
  rw [verify_eq_checkRows hmatrix hsupplies, checkRows_eq_forM, forM_eq_ok_iff]
  intro row hrow
  have hlt : row < residuals.length := by
    have hbounds := List.mem_range'_1.mp hrow
    omega
  rw [checkRow_of_residuals hmatrix hsupplies hresiduals (List.getElem?_eq_getElem hlt)]
  exact if_neg (hnone row)

/-- Verification accepts if no row fails, and otherwise gives the reason of the least one
that does. -/
theorem verify_cases :
    (∀ row, ¬ FailsAt witness (matrix.publicBindings inputs) residuals row) ∧
        matrix.verify given givenInputs = .ok () ∨
      ∃ row residual,
        IsLeast {row | FailsAt witness (matrix.publicBindings inputs) residuals row} row ∧
        residuals[row]? = some residual ∧
        matrix.verify given givenInputs = .error (.rejected
          (matrix.rejectionAt selectors witness (matrix.publicBindings inputs) residual row)) := by
  by_cases hfails : ∃ row, FailsAt witness (matrix.publicBindings inputs) residuals row
  · right
    have hleast :
        IsLeast {row | FailsAt witness (matrix.publicBindings inputs) residuals row}
          (Nat.find hfails) :=
      ⟨Nat.find_spec hfails, fun row hrow => Nat.find_min' hfails hrow⟩
    have hrow := List.getElem?_eq_getElem (hleast.1.lt_length hmatrix hsupplies hresiduals)
    exact ⟨_, _, hleast, hrow,
      verify_eq_error_of_isLeast hmatrix hsupplies hresiduals hleast hrow⟩
  · rw [not_exists] at hfails
    exact Or.inl ⟨hfails, verify_eq_ok_of_forall hmatrix hsupplies hresiduals hfails⟩

end Verdict

/-- The two ways to check a matrix agree: verification accepts exactly if all residuals
vanish and every public input is the value of its variable, and otherwise it ends at the
least row where one of the two fails, a comparison before the residual. -/
theorem verify_agrees_residuals (hmatrix : matrix.WellShaped selectors)
    (hsupplies : matrix.Supplies given givenInputs witness inputs) :
    ∃ residuals rows,
      matrix.residuals given givenInputs = .ok residuals ∧
      (residuals.length : Int) = matrix.size ∧
      matrix.unsatisfiedRows given givenInputs = .ok rows ∧
      rows.Pairwise (· < ·) ∧
      (∀ row, row ∈ rows ↔ ∃ residual, residuals[row]? = some residual ∧ residual ≠ 0) ∧
      (matrix.verify given givenInputs = .ok () ↔ rows = [] ∧
        inputs = matrix.bindingVars.map fun index => assignment witness index.toNat) ∧
      (matrix.verify given givenInputs ≠ .ok () → ∃ row residual,
        IsLeast {row | FailsAt witness (matrix.publicBindings inputs) residuals row} row ∧
        residuals[row]? = some residual ∧
        matrix.verify given givenInputs = .error (.rejected
          (matrix.rejectionAt selectors witness (matrix.publicBindings inputs) residual
            row))) := by
  obtain ⟨residuals, hresiduals, hlength, _⟩ := residuals_eq hmatrix hsupplies
  obtain ⟨rows, hrows, hsorted, hmem⟩ := unsatisfiedRows_eq hresiduals
  have hempty : rows = [] ↔
      ∀ (row : Nat) residual, residuals[row]? = some residual → residual = 0 := by
    simp only [List.eq_nil_iff_forall_not_mem, hmem, not_exists, not_and, not_not]
  have hpass : (∀ row, ¬ FailsAt witness (matrix.publicBindings inputs) residuals row) ↔
      rows = [] ∧ inputs = matrix.bindingVars.map fun index => assignment witness index.toNat := by
    rw [forall_not_failsAt_iff hmatrix, hempty, inputs_eq_map_iff hsupplies]
  refine ⟨residuals, rows, hresiduals, hlength, hrows, hsorted, hmem, ?_⟩
  rw [← hpass]
  rcases verify_cases hmatrix hsupplies hresiduals with
    ⟨hnone, hverify⟩ | ⟨row, residual, hleast, hrow, hverify⟩
  · exact ⟨iff_of_true hverify hnone, fun hne => absurd hverify hne⟩
  · refine ⟨iff_of_false ?_ fun hnone => hnone row hleast.1,
      fun _ => ⟨row, residual, hleast, hrow, hverify⟩⟩
    rw [hverify]
    nofun

/-- A sum in row 0 and public values in rows 1 and 2, the latter bound first.  Row 1 is
bound twice, to different variables. -/
def crossed : ConstraintMatrix .goldilocks where
  size := 3
  numVars := 3
  wiring := [[0, 0, 2], [1, 0, 2], [0, 0, 2], [0, 0, 2], [2, 0, 2]]
  selectors := [[1, 0, 0], [1, 0, 0]].map (·.map Value.int) ++
    List.replicate 10 (List.replicate 3 (.int 0)) ++ [List.replicate 3 (.int 1)]
  bindingRows := [2, 1, 1]
  bindingVars := [2, 0, 1]
  quotientDomain := .ok 8

/-- The selectors of the matrix as elements. -/
def crossedSelectors : List (List (Element .goldilocks)) :=
  [[1, 0, 0], [1, 0, 0]] ++ List.replicate 10 (List.replicate 3 0) ++ [List.replicate 3 1]

/-- Row 1 fails, at its second binding, although the first one matches. -/
theorem verify_agrees_residuals_crossed :
    crossed.WellShaped crossedSelectors ∧
    crossed.Supplies (.list [.int 2, .int 3, .int 5]) (.list [.int 5, .int 2, .int 7])
      [2, 3, 5] [5, 2, 7] ∧
    ∃ residuals, crossed.residuals (.list [.int 2, .int 3, .int 5])
        (.list [.int 5, .int 2, .int 7]) = .ok residuals ∧
      IsLeast {row | FailsAt [2, 3, 5] (crossed.publicBindings [5, 2, 7]) residuals row} 1 ∧
      crossed.verify (.list [.int 2, .int 3, .int 5]) (.list [.int 5, .int 2, .int 7]) =
        .error (.rejected (.publicInputMismatch 1 1 7 3)) := by
  have hmatrix : crossed.WellShaped crossedSelectors := by
    constructor <;> decide
  have hsupplies : crossed.Supplies (.list [.int 2, .int 3, .int 5])
      (.list [.int 5, .int 2, .int 7]) [2, 3, 5] [5, 2, 7] := by
    constructor <;> decide
  have hverify : crossed.verify (.list [.int 2, .int 3, .int 5]) (.list [.int 5, .int 2, .int 7]) =
      .error (.rejected (.publicInputMismatch 1 1 7 3)) := by
    decide +kernel
  obtain ⟨residuals, rows, hresiduals, _, _, _, _, _, hrejected⟩ :=
    verify_agrees_residuals hmatrix hsupplies
  obtain ⟨row, residual, hleast, _, hreason⟩ := hrejected (by rw [hverify]; nofun)
  refine ⟨hmatrix, hsupplies, residuals, hresiduals, ?_, hverify⟩
  have hrow : row = 1 := by
    rw [hverify, Except.error.injEq, CircuitError.rejected.injEq] at hreason
    have hnamed := congrArg Rejection.row? hreason
    rw [row?_rejectionAt] at hnamed
    exact (Option.some.inj hnamed).symm
  rwa [hrow] at hleast

end ConstraintMatrix

end Plonkish
