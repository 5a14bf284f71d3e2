import Plonkish.Matrix.Residuals
import Plonkish.Proofs.Gate.Column
import Plonkish.Proofs.Matrix.Verify

/-!
# Residuals of well-shaped matrices

On a matrix whose columns have the right number and length, and whose entries point to
variables and rows that are there, the residuals exist.  The public value of a row is
the input of the last binding that names the row, as it is for verification.
-/

namespace Plonkish

variable {F : BaseField}

namespace ConstraintMatrix

variable {matrix : ConstraintMatrix F} {selectors : List (List (Element F))}
  {witness inputs : List (Element F)} {given givenInputs : Value}

/-- One step of writing public inputs into the column of public values. -/
def writePublic (column : List (Element F)) (place : Int × Value) :
    Except CircuitError (List (Element F)) := do
  let value ← place.2.toElement F
  match position? column.length place.1 with
  | some position => return column.set position value
  | none => throw (refusedRow place.1)

theorem writePublic_eq {column : List (Element F)} {row : Int} {input : Value}
    {value : Element F} (hinput : input.toElement F = .ok value)
    (hrow : 0 ≤ row ∧ row < column.length) :
    writePublic column (row, input) = .ok (column.set row.toNat value) := by
  have hposition : position? column.length row = some row.toNat := by
    rw [position?, if_pos hrow.1, if_pos (by omega)]
  rw [writePublic, hinput, except_bind_ok, hposition]
  rfl

/-- Written one after the other, the inputs of a row leave that of its last binding. -/
theorem foldlM_writePublic {rows vars : List Int} {column : List (Element F)}
    {entries : List Value} (hentries : entries.mapM (Value.toElement F) = .ok inputs)
    (hvars : inputs.length = vars.length)
    (hrows : ∀ row ∈ rows, 0 ≤ row ∧ row < column.length) :
    ∃ written, (rows.zip entries).foldlM writePublic column = .ok written ∧
      written.length = column.length ∧ ∀ row < column.length, written.getD row 0 =
        lastPublic (List.zipWith (fun place value => ⟨place.1, place.2, value⟩) (rows.zip vars)
          inputs) row (column.getD row 0) := by
  -- what the column has so far in a row is what `lastPublic` starts from
  induction rows generalizing vars column entries inputs with
  | nil => exact ⟨column, rfl, rfl, fun _ _ => rfl⟩
  | cons first rows ih =>
      cases entries with
      | nil =>
          obtain rfl := List.length_eq_zero_iff.mp (length_of_mapM_eq_ok hentries)
          exact ⟨column, rfl, rfl, fun _ _ => by rw [List.zipWith_nil_right]; rfl⟩
      | cons entry entries =>
          rw [List.mapM_cons, bind_eq_ok_iff] at hentries
          obtain ⟨value, hvalue, hrest⟩ := hentries
          obtain ⟨values, hvalues, hinputs⟩ := bind_eq_ok_iff.mp hrest
          cases hinputs
          obtain ⟨boundVar, vars, rfl⟩ := List.exists_cons_of_length_eq_add_one hvars.symm
          rw [List.forall_mem_cons] at hrows
          obtain ⟨hfirst, hrows⟩ := hrows
          have hset : ∀ row ∈ rows, 0 ≤ row ∧ row < (column.set first.toNat value).length := by
            rwa [List.length_set]
          obtain ⟨written, hwritten, hlength, hentry⟩ := ih hvalues (Nat.succ.inj hvars) hset
          rw [List.length_set] at hlength hentry
          refine ⟨written, ?_, hlength, ?_⟩
          · rw [List.zip_cons_cons, List.foldlM_cons, writePublic_eq hvalue hfirst, except_bind_ok,
              hwritten]
          · intro row hrow
            rw [hentry row hrow, List.zip_cons_cons, List.zipWith_cons_cons]
            conv_rhs => rw [lastPublic, List.foldl_cons, ← lastPublic]
            by_cases hsame : first = (row : Int)
            · rw [if_pos hsame, hsame, Int.toNat_natCast, List.getD_eq_getElem?_getD,
                List.getElem?_set_self hrow, Option.getD_some]
            · rw [if_neg hsame, List.getD_eq_getElem?_getD, List.getElem?_set_ne (by omega),
                ← List.getD_eq_getElem?_getD]

theorem zeroColumn_eq (hmatrix : matrix.WellShaped selectors) :
    matrix.zeroColumn = .ok (List.replicate matrix.size.toNat 0) := by
  have hle : matrix.size ≤ ((matrix.wiring.headD []).length : Int) := hmatrix.length_head.ge
  rw [zeroColumn, if_pos ⟨hmatrix.size_nonneg, Or.inl hle⟩, if_pos (Or.inl hle)]
  rfl

theorem publicColumn_eq (hmatrix : matrix.WellShaped selectors) {entries : List Value}
    (hentries : Value.toColumn F entries = .ok inputs)
    (hvars : inputs.length = matrix.bindingVars.length) :
    ∃ publicValues, matrix.publicColumn entries = .ok publicValues ∧
      publicValues.length = matrix.size.toNat ∧ ∀ row < matrix.size.toNat,
        publicValues.getD row 0 = lastPublic (matrix.publicBindings inputs) row 0 := by
  have hrows : ∀ row ∈ matrix.bindingRows, 0 ≤ row ∧
      row < (List.replicate matrix.size.toNat (0 : Element F)).length := by
    intro row hrow
    have hlt := hmatrix.bindingRow_lt row hrow
    rw [List.length_replicate]
    omega
  obtain ⟨publicValues, hwritten, hlength, hentry⟩ := foldlM_writePublic hentries hvars hrows
  rw [List.length_replicate] at hlength hentry
  refine ⟨publicValues, ?_, hlength, ?_⟩
  · rw [publicColumn, zeroColumn_eq hmatrix, except_bind_ok]
    exact hwritten
  · intro row hrow
    rw [hentry row hrow, List.getD_replicate _ hrow]
    rfl

/-- Wires that carry variables of the matrix pass every check that variables pass. -/
theorem checkWiring_eq_ok (hmatrix : matrix.WellShaped selectors) {bound : Int}
    (hbound : matrix.numVars ≤ bound) : matrix.checkWiring bound = .ok () := by
  have hequal : matrix.wiring.all
      (fun column => column.length == (matrix.wiring.headD []).length) = true := by
    rw [List.all_eq_true]
    intro column hcolumn
    have hsize := (hmatrix.length_wire column hcolumn).trans hmatrix.length_head.symm
    rw [beq_iff_eq]
    exact Int.ofNat.inj hsize
  have hentries : matrix.wiring.all (·.all fun entry =>
      -wordBound ≤ entry && entry < bound) = true := by
    simp only [List.all_eq_true, Bool.and_eq_true, decide_eq_true_eq]
    intro column hcolumn index hindex
    have hlt := hmatrix.wire_lt column hcolumn index hindex
    have hword : 0 ≤ wordBound := Int.natCast_nonneg _
    exact ⟨by omega, by omega⟩
  rw [checkWiring, if_pos hequal, if_pos hentries]
  rfl

theorem wireValues_eq (hmatrix : matrix.WellShaped selectors)
    (hlength : (witness.length : Int) = matrix.numVars) :
    matrix.wireValues witness = .ok (matrix.wiring.map fun column =>
      column.map fun index => assignment witness index.toNat) := by
  have hgather : ∀ column ∈ matrix.wiring, column.mapM (entryAt witness) =
      .ok (column.map fun index => assignment witness index.toNat) := by
    intro column hcolumn
    apply mapM_eq_ok_map
    intro index hindex
    exact entryAt_toNat (hlength ▸ hmatrix.wire_lt column hcolumn index hindex)
  rw [wireValues, checkWiring_eq_ok hmatrix (le_max_right _ _)]
  exact mapM_eq_ok_map hgather

theorem getD_gathered (hmatrix : matrix.WellShaped selectors) {row : Nat}
    (hrow : (row : Int) < matrix.size) :
    (matrix.wiring.map fun column => column.map fun index => assignment witness index.toNat).map
        (·.getD row 0) = matrix.wiresAt witness row := by
  rw [wiresAt, List.map_map]
  apply List.map_congr_left
  intro column hcolumn
  have hlt : row < column.length := by
    have hsize := hmatrix.length_wire column hcolumn
    omega
  rw [Function.comp_apply, List.getD_eq_getElem _ _ (by rwa [List.length_map]), List.getElem_map,
    List.getD_eq_getElem _ _ hlt]

/-- The residuals are those of the rows, with the public values that verification uses. -/
theorem residuals_eq (hmatrix : matrix.WellShaped selectors)
    (hsupplies : matrix.Supplies given givenInputs witness inputs) :
    ∃ residuals, matrix.residuals given givenInputs = .ok residuals ∧
      (residuals.length : Int) = matrix.size ∧
      ∀ row : Nat, (row : Int) < matrix.size →
        Gate.residualOfLists (matrix.wiresAt witness row) (selectorsAt selectors row)
          (lastPublic (matrix.publicBindings inputs) row 0) = .ok (residuals.getD row 0) := by
  obtain ⟨entries, inputEntries, hgiven, hwitness, hinputs⟩ := hsupplies.givenValues
  by_cases hempty : matrix.size = 0
  -- without rows the columns are never looked at
  · refine ⟨[], ?_, hempty.symm, fun row hrow => ?_⟩
    · simp only [residuals, hgiven, except_bind_ok, if_pos hempty]
      rfl
    · omega
  obtain ⟨publicValues, hcolumn, hpublicLength, hpublic⟩ :=
    publicColumn_eq hmatrix hinputs hsupplies.length_vars
  have hwires := wireValues_eq hmatrix hsupplies.length_witness
  have hcount : (matrix.wiring.map fun column => column.map fun index =>
      assignment witness index.toNat).length = Wires.count := by
    rw [List.length_map, hmatrix.length_wiring]
  have hwire : ∀ column ∈ matrix.wiring.map fun column => column.map fun index =>
      assignment witness index.toNat, column.length = matrix.size.toNat := by
    rw [List.forall_mem_map]
    intro column hcolumn
    have hsize := hmatrix.length_wire column hcolumn
    rw [List.length_map]
    omega
  have hselector : ∀ column ∈ selectors, column.length = matrix.size.toNat := by
    intro column hcolumn
    have hsize := hmatrix.length_selector column hcolumn
    omega
  obtain ⟨values, hvalues, hlength, hresidual⟩ := Gate.evaluateLists_columns hcount
    hmatrix.length_selectors hwire hselector hpublicLength
  have hnonneg := hmatrix.size_nonneg
  refine ⟨values, ?_, by omega, fun row hrow => ?_⟩
  · simp only [residuals, hgiven, except_bind_ok, if_neg hempty, hwitness, hwires,
      hmatrix.selectorColumns_eq, hcolumn, hvalues]
    rfl
  · have hlt : row < matrix.size.toNat := by omega
    rw [← hresidual row hlt, getD_gathered hmatrix hrow, hpublic row hlt]
    rfl

section Found

variable {residuals : List (Element F)} (hmatrix : matrix.WellShaped selectors)
  (hsupplies : matrix.Supplies given givenInputs witness inputs)
  (hresiduals : matrix.residuals given givenInputs = .ok residuals)

include hmatrix hsupplies hresiduals

theorem length_residuals : (residuals.length : Int) = matrix.size := by
  obtain ⟨found, hfound, hlength, _⟩ := residuals_eq hmatrix hsupplies
  obtain rfl : found = residuals := Except.ok.inj (hfound.symm.trans hresiduals)
  exact hlength

theorem residualOfLists_eq_ok {row : Nat} {residual : Element F}
    (hrow : residuals[row]? = some residual) :
    Gate.residualOfLists (matrix.wiresAt witness row) (selectorsAt selectors row)
      (lastPublic (matrix.publicBindings inputs) row 0) = .ok residual := by
  obtain ⟨found, hfound, hlength, hresidual⟩ := residuals_eq hmatrix hsupplies
  obtain rfl : found = residuals := Except.ok.inj (hfound.symm.trans hresiduals)
  obtain ⟨hlt, rfl⟩ := List.getElem?_eq_some_iff.mp hrow
  rw [hresidual row (by omega), List.getD_eq_getElem _ _ hlt]

end Found

/-! ### Rows that are not satisfied -/

theorem unsatisfiedRows_eq {residuals : List (Element F)}
    (hresiduals : matrix.residuals given givenInputs = .ok residuals) :
    ∃ rows, matrix.unsatisfiedRows given givenInputs = .ok rows ∧ rows.Pairwise (· < ·) ∧
      ∀ row, row ∈ rows ↔ ∃ residual, residuals[row]? = some residual ∧ residual ≠ 0 := by
  refine ⟨_, by rw [unsatisfiedRows, hresiduals, except_bind_ok]; rfl, ?_, ?_⟩
  · have hsorted : (residuals.zipIdx.map Prod.snd).Pairwise (· < ·) := by
      rw [List.zipIdx_map_snd]
      exact List.pairwise_lt_range'
    exact hsorted.sublist (List.filter_sublist.map Prod.snd)
  · intro row
    simp only [List.mem_map, List.mem_filter, decide_eq_true_eq, Prod.exists, exists_eq_right,
      List.mem_zipIdx_iff_getElem?]

end ConstraintMatrix

end Plonkish
