import Plonkish.Proofs.Matrix.Agreement

/-!
# Arguments that are refused

Verification reads its arguments before it looks at a row: it counts the values and the
public inputs and takes each for an element.  The residuals read the public inputs only
when they write them into their column, and read nothing at all where there is no row.
Both refuse the same arguments for the same reasons wherever there are rows.
-/

namespace Plonkish

variable {F : BaseField}

/-- A refusal of arguments for what they are, before any row is looked at. -/
def CircuitError.Malformed : CircuitError → Prop
  | parameter _ | rejected (.witnessLength ..) | rejected (.publicInputCount ..) => True
  | _ => False

theorem Value.toElement_eq_error {value : Value} {refusal : CircuitError}
    (hvalue : value.toElement F = .error refusal) : ∃ cause, refusal = .parameter cause := by
  unfold toElement at hvalue
  split at hvalue
  case h_1 | h_2 => cases hvalue
  case h_3 | h_4 => split at hvalue <;> cases hvalue <;> exact ⟨_, rfl⟩
  case h_5 =>
    cases hvalue
    exact ⟨_, rfl⟩

theorem Value.toColumn_eq_error {entries : List Value} {refusal : CircuitError}
    (hentries : toColumn F entries = .error refusal) : ∃ cause, refusal = .parameter cause := by
  induction entries with
  | nil => cases hentries
  | cons entry entries ih =>
      rw [toColumn, List.mapM_cons, bind_eq_error_iff] at hentries
      rcases hentries with hentry | ⟨value, _, hrest⟩
      · exact toElement_eq_error hentry
      · rcases bind_eq_error_iff.mp hrest with htail | ⟨values, _, hcons⟩
        · exact ih htail
        · cases hcons

theorem Value.entries_ne_parameter {value : Value} {cause : BadParameter} :
    value.entries ≠ .error (.parameter cause) := by
  cases value <;> nofun

namespace ConstraintMatrix

variable {matrix : ConstraintMatrix F} {selectors : List (List (Element F))}
  {given givenInputs : Value} {refusal : CircuitError}

/-- The elements that the arguments of verification stand for. -/
def reading (matrix : ConstraintMatrix F) (given givenInputs : Value) :
    Except CircuitError (List (Element F) × List (Element F)) := do
  let (entries, inputEntries) ← matrix.givenValues given givenInputs
  let witness ← Value.toColumn F entries
  let inputs ← Value.toColumn F inputEntries
  return (witness, inputs)

/-- No element is looked at while the values are counted. -/
theorem givenValues_ne_parameter {cause : BadParameter} :
    matrix.givenValues given givenInputs ≠ .error (.parameter cause) := by
  rw [givenValues, ne_eq, bind_eq_error_iff]
  rintro (hentries | ⟨entries, _, hrest⟩)
  · exact Value.entries_ne_parameter hentries
  · split at hrest
    · rcases bind_eq_error_iff.mp hrest with hinputs | ⟨inputEntries, _, hcount⟩
      · exact Value.entries_ne_parameter hinputs
      · split at hcount <;> cases hcount
    · cases hrest

/-- The arguments are read exactly if they stand for a value of every variable and an input
of every binding. -/
theorem reading_eq_ok_iff {witness inputs : List (Element F)} :
    matrix.reading given givenInputs = .ok (witness, inputs) ↔
      matrix.Supplies given givenInputs witness inputs := by
  constructor
  · intro hreading
    obtain ⟨⟨entries, inputEntries⟩, hgiven, hrest⟩ := bind_eq_ok_iff.mp hreading
    obtain ⟨found, hwitness, hrest⟩ := bind_eq_ok_iff.mp hrest
    obtain ⟨foundInputs, hinputs, hrest⟩ := bind_eq_ok_iff.mp hrest
    cases hrest
    obtain ⟨hentries, hinputEntries, hlength, hvars, hrows⟩ := givenValues_eq_ok_iff.mp hgiven
    have hcount := length_of_mapM_eq_ok hinputs
    exact {
      witness_eq := bind_eq_ok_iff.mpr ⟨entries, hentries, hwitness⟩
      inputs_eq := bind_eq_ok_iff.mpr ⟨inputEntries, hinputEntries, hinputs⟩
      length_witness := by rw [length_of_mapM_eq_ok hwitness, hlength]
      length_vars := hcount.trans hvars
      length_rows := hcount.trans hrows }
  · intro hsupplies
    obtain ⟨entries, inputEntries, hgiven, hwitness, hinputs⟩ := hsupplies.givenValues
    simp only [reading, hgiven, hwitness, hinputs, except_bind_ok]
    rfl

/-! ### Verification -/

theorem verify_eq_bind (matrix : ConstraintMatrix F) (given givenInputs : Value) :
    matrix.verify given givenInputs = (do
      let (witness, inputs) ← matrix.reading given givenInputs
      let selectors ← matrix.selectorColumns
      matrix.checkRows selectors witness (matrix.publicBindings inputs) 0 matrix.size.toNat) := by
  simp only [verify, reading, bind_assoc, pure_bind]

theorem not_malformed_rejectionAt {witness : List (Element F)} {bindings : List (PublicBinding F)}
    {residual : Element F} {row : Nat} :
    ¬ (CircuitError.rejected
      (matrix.rejectionAt selectors witness bindings residual row)).Malformed := by
  rw [rejectionAt]
  cases mismatch? witness bindings row <;> exact id

/-- Verification refuses arguments for what they are exactly if they cannot be read. -/
theorem verify_eq_error_iff (hmatrix : matrix.WellShaped selectors)
    (hmalformed : refusal.Malformed) :
    matrix.verify given givenInputs = .error refusal ↔
      matrix.reading given givenInputs = .error refusal := by
  cases hreading : matrix.reading given givenInputs with
  | error found => simp only [verify_eq_bind, hreading, except_bind_error, Except.error.injEq]
  | ok read =>
      have hsupplies := reading_eq_ok_iff.mp hreading
      obtain ⟨residuals, hresiduals, _⟩ := residuals_eq hmatrix hsupplies
      refine iff_of_false ?_ nofun
      rcases verify_cases hmatrix hsupplies hresiduals with
        ⟨_, haccepted⟩ | ⟨row, residual, _, _, hrejected⟩
      · rw [haccepted]
        nofun
      · rw [hrejected]
        rintro ⟨⟩
        exact not_malformed_rejectionAt hmalformed

/-! ### Residuals -/

theorem foldlM_writePublic_eq_error {rows : List Int} {column : List (Element F)}
    {entries : List Value} (hentries : entries.mapM (Value.toElement F) = .error refusal)
    (hlength : entries.length = rows.length)
    (hrows : ∀ row ∈ rows, 0 ≤ row ∧ row < column.length) :
    (rows.zip entries).foldlM writePublic column = .error refusal := by
  induction rows generalizing column entries with
  | nil =>
      rw [List.length_eq_zero_iff.mp hlength] at hentries
      cases hentries
  | cons first rows ih =>
      obtain ⟨entry, entries, rfl⟩ := List.exists_cons_of_length_eq_add_one hlength
      rw [List.forall_mem_cons] at hrows
      obtain ⟨hfirst, hrows⟩ := hrows
      rw [List.zip_cons_cons, List.foldlM_cons]
      rw [List.mapM_cons, bind_eq_error_iff] at hentries
      rcases hentries with hentry | ⟨value, hvalue, hrest⟩
      · rw [writePublic, hentry, except_bind_error, except_bind_error]
      · rcases bind_eq_error_iff.mp hrest with htail | ⟨values, _, hcons⟩
        · rw [writePublic_eq hvalue hfirst, except_bind_ok]
          exact ih htail (Nat.succ.inj hlength) (by rwa [List.length_set])
        · cases hcons

theorem publicColumn_eq_error (hmatrix : matrix.WellShaped selectors) {entries : List Value}
    (hentries : Value.toColumn F entries = .error refusal)
    (hlength : entries.length = matrix.bindingRows.length) :
    matrix.publicColumn entries = .error refusal := by
  rw [publicColumn, zeroColumn_eq hmatrix, except_bind_ok]
  apply foldlM_writePublic_eq_error hentries hlength
  intro row hrow
  have hlt := hmatrix.bindingRow_lt row hrow
  rw [List.length_replicate]
  omega

/-- Where there are rows, the residuals are refused exactly if the arguments cannot be read. -/
theorem residuals_eq_error_iff (hmatrix : matrix.WellShaped selectors) (hrows : matrix.size ≠ 0) :
    matrix.residuals given givenInputs = .error refusal ↔
      matrix.reading given givenInputs = .error refusal := by
  cases hgiven : matrix.givenValues given givenInputs with
  | error found => simp only [residuals, reading, hgiven, except_bind_error, Except.error.injEq]
  | ok found =>
      obtain ⟨entries, inputEntries⟩ := found
      cases hwitness : Value.toColumn F entries with
      | error found =>
          simp only [residuals, reading, hgiven, hwitness, if_neg hrows, except_bind_ok,
            except_bind_error, Except.error.injEq]
      | ok witness =>
          cases hinputs : Value.toColumn F inputEntries with
          | error found =>
              obtain ⟨_, _, hlength, _, hcount⟩ := givenValues_eq_ok_iff.mp hgiven
              rw [← length_of_mapM_eq_ok hwitness] at hlength
              simp only [residuals, reading, hgiven, hwitness, hinputs, if_neg hrows,
                wireValues_eq hmatrix hlength, hmatrix.selectorColumns_eq,
                publicColumn_eq_error hmatrix hinputs hcount, except_bind_ok, except_bind_error,
                Except.error.injEq]
          | ok inputs =>
              have hreading : matrix.reading given givenInputs = .ok (witness, inputs) := by
                simp only [reading, hgiven, hwitness, hinputs, except_bind_ok]
                rfl
              obtain ⟨residuals, hresiduals, _⟩ :=
                residuals_eq hmatrix (reading_eq_ok_iff.mp hreading)
              rw [hresiduals, hreading]
              simp only [reduceCtorEq]

/-- Without rows the residuals only ask how many values there are. -/
theorem residuals_eq_error_iff_of_empty (hempty : matrix.size = 0) :
    matrix.residuals given givenInputs = .error refusal ↔
      matrix.reading given givenInputs = .error refusal ∧
        ∀ cause, refusal ≠ .parameter cause := by
  cases hgiven : matrix.givenValues given givenInputs with
  | error found =>
      simp only [residuals, reading, hgiven, except_bind_error, Except.error.injEq, iff_self_and]
      rintro rfl cause rfl
      exact givenValues_ne_parameter hgiven
  | ok found =>
      simp only [residuals, reading, hgiven, except_bind_ok, if_pos hempty]
      refine iff_of_false (by rintro ⟨⟩) ?_
      rintro ⟨hrefused, hother⟩
      rcases bind_eq_error_iff.mp hrefused with hwitness | ⟨witness, _, hrest⟩
      · obtain ⟨cause, rfl⟩ := Value.toColumn_eq_error hwitness
        exact hother cause rfl
      · rcases bind_eq_error_iff.mp hrest with hinputs | ⟨inputs, _, hread⟩
        · obtain ⟨cause, rfl⟩ := Value.toColumn_eq_error hinputs
          exact hother cause rfl
        · cases hread

theorem unsatisfiedRows_eq_error_iff :
    matrix.unsatisfiedRows given givenInputs = .error refusal ↔
      matrix.residuals given givenInputs = .error refusal := by
  rw [unsatisfiedRows, bind_eq_error_iff]
  refine or_iff_left ?_
  rintro ⟨_, _, hrows⟩
  cases hrows

end ConstraintMatrix

end Plonkish
