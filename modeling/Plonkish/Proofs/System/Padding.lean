import Mathlib.Order.Bounds.Basic
import Plonkish.Proofs.System.Acceptance
import Plonkish.Proofs.System.Completion

/-!
# Rows that verification does not see

Padding goes up to the least power of two that the rows fit into.  The rows that it adds
hold whatever the witness is, and verification of a system does not change if such rows
are appended: it comes to the same end for the same reason, also for arguments that are
no witness at all.
-/

namespace Plonkish

variable {F : BaseField}

/-! ### The least power of two -/

theorem isLeast_nextPowerOfTwo (size : Nat) :
    IsLeast {bound | (∃ exponent, bound = 2 ^ exponent) ∧ max size 1 ≤ bound}
      (Builder.nextPowerOfTwo size) := by
  rw [Builder.nextPowerOfTwo]
  split
  · next hsmall =>
    refine ⟨⟨⟨0, rfl⟩, max_le hsmall (Nat.le_refl 1)⟩, ?_⟩
    rintro bound ⟨_, hbound⟩
    exact (le_max_right size 1).trans hbound
  · next hlarge =>
    refine ⟨⟨⟨_, rfl⟩, max_le ?_ Nat.one_le_two_pow⟩, ?_⟩
    · have hlt : size - 1 < 2 ^ ((size - 1).log2 + 1) := Nat.lt_log2_self
      exact Nat.le_of_pred_lt hlt
    · rintro bound ⟨⟨exponent, rfl⟩, hbound⟩
      have hsize : size ≤ 2 ^ exponent := (le_max_left size 1).trans hbound
      have hlog : (size - 1).log2 < exponent := by
        rw [Nat.log2_lt (by omega)]
        omega
      exact Nat.pow_le_pow_right Nat.two_pos hlog

theorem nextPowerOfTwo_two_pow (exponent : Nat) :
    Builder.nextPowerOfTwo (2 ^ exponent) = 2 ^ exponent := by
  apply (isLeast_nextPowerOfTwo _).unique
  refine ⟨⟨⟨exponent, rfl⟩, max_le (Nat.le_refl _) Nat.one_le_two_pow⟩, ?_⟩
  rintro bound ⟨_, hbound⟩
  exact (le_max_left _ 1).trans hbound

namespace System

theorem size_padded (system : System F) :
    system.padded.size = Builder.nextPowerOfTwo system.inhabited.size := by
  have hle : system.inhabited.size ≤ Builder.nextPowerOfTwo system.inhabited.size :=
    (le_max_left _ 1).trans (isLeast_nextPowerOfTwo _).1.2
  change (system.inhabited.rows ++ system.inhabited.paddingRows).length = _
  rw [List.length_append, paddingRows, List.length_replicate]
  exact Nat.add_sub_cancel' hle

/-- Where there is a variable, padding changes the rows and the phase only. -/
theorem padded_of_ne_zero {system : System F} (hnumVars : system.numVars ≠ 0) :
    system.padded = { system.grow [] system.paddingRows with phase := .padded } := by
  rw [padded, inhabited_of_ne_zero hnumVars]

/-- A second padding changes nothing. -/
theorem WellFormed.padded_padded {system : System F} (hsystem : system.WellFormed) :
    system.padded.padded = system.padded := by
  have hnumVars : system.padded.numVars ≠ 0 := hsystem.numVars_inhabited_pos.ne'
  obtain ⟨exponent, hexponent⟩ := (isLeast_nextPowerOfTwo system.inhabited.size).1.1
  have hrows : system.padded.paddingRows = [] := by
    rw [paddingRows, size_padded, hexponent, nextPowerOfTwo_two_pow, Nat.sub_self,
      List.replicate_zero]
  rw [padded_of_ne_zero hnumVars, hrows, grow_nil]
  rfl

end System

/-! ### Rows that hold for a witness -/

namespace ConstraintMatrix

variable {matrix other : ConstraintMatrix F} {given givenInputs : Value}

/-- Matrices with the same variables and bindings refuse the same arguments, so they are
verified alike if they are where the arguments stand for a witness and public inputs. -/
theorem verify_congr (hnumVars : other.numVars = matrix.numVars)
    (hrows : other.bindingRows = matrix.bindingRows)
    (hvars : other.bindingVars = matrix.bindingVars)
    (hsame : ∀ witness inputs, matrix.Supplies given givenInputs witness inputs →
      other.verify given givenInputs = matrix.verify given givenInputs) :
    other.verify given givenInputs = matrix.verify given givenInputs := by
  have hvalues : other.givenValues given givenInputs = matrix.givenValues given givenInputs := by
    rw [givenValues, givenValues, hnumVars, hrows, hvars]
  cases hgiven : matrix.givenValues given givenInputs with
  | error refusal => rw [verify, verify, hvalues, hgiven, except_bind_error, except_bind_error]
  | ok found =>
      obtain ⟨entries, inputEntries⟩ := found
      cases hwitness : Value.toColumn F entries with
      | error refusal =>
          simp only [verify, hvalues, hgiven, hwitness, except_bind_ok, except_bind_error]
      | ok witness =>
          cases hinputs : Value.toColumn F inputEntries with
          | error refusal =>
              simp only [verify, hvalues, hgiven, hwitness, hinputs, except_bind_ok,
                except_bind_error]
          | ok inputs =>
              obtain ⟨hentries, hinputEntries, hlength, hcount, hcountRows⟩ :=
                givenValues_eq_ok_iff.mp hgiven
              have hwitnessLength := length_of_mapM_eq_ok hwitness
              have hinputsLength := length_of_mapM_eq_ok hinputs
              exact hsame witness inputs {
                witness_eq := bind_eq_ok_iff.mpr ⟨entries, hentries, hwitness⟩
                inputs_eq := bind_eq_ok_iff.mpr ⟨inputEntries, hinputEntries, hinputs⟩
                length_witness := by rw [hwitnessLength, hlength]
                length_vars := hinputsLength.trans hcount
                length_rows := hinputsLength.trans hcountRows }

end ConstraintMatrix

namespace System

section Appended

variable {system : System F} {rows : List (Row F)} {witness inputs residuals : List (Element F)}
  {given givenInputs : Value} (hsystem : system.WellFormed)
  (hgrown : (system.grow [] rows).WellFormed)
  (hholds : ∀ row ∈ rows, row.Holds (assignment witness))
  (hsupplies : system.matrix.Supplies given givenInputs witness inputs)
  (hresiduals : system.matrix.residuals given givenInputs = .ok residuals)

theorem supplies_grow_rows (rows : List (Row F))
    (hsupplies : system.matrix.Supplies given givenInputs witness inputs) :
    (system.grow [] rows).matrix.Supplies given givenInputs witness inputs :=
  ⟨hsupplies.witness_eq, hsupplies.inputs_eq, hsupplies.length_witness, hsupplies.length_vars,
    hsupplies.length_rows⟩

include hsystem hgrown hholds hsupplies hresiduals

/-- Appended rows that hold add a zero each to the residuals. -/
theorem residuals_grow_rows :
    (system.grow [] rows).matrix.residuals given givenInputs =
      .ok (residuals ++ List.replicate rows.length 0) := by
  have hsupplied := supplies_grow_rows rows hsupplies
  obtain ⟨found, hfound, _⟩ := ConstraintMatrix.residuals_eq hgrown.wellShaped hsupplied
  have hlength := length_residuals hsystem hsupplies hresiduals
  rw [hfound, Except.ok.injEq]
  apply List.ext_getElem?
  intro position
  rcases Nat.lt_or_ge position system.rows.length with hold | hnew
  · have hrow := List.getElem?_eq_getElem hold
    have hrow' : (system.grow [] rows).rows[position]? = some system.rows[position] := by
      rw [rows_grow, List.getElem?_append_left hold, hrow]
    rw [List.getElem?_append_left (hlength ▸ hold),
      residual_row hgrown hsupplied hfound hrow', residual_row hsystem hsupplies hresiduals hrow]
    rfl
  · obtain ⟨offset, rfl⟩ := Nat.exists_eq_add_of_le hnew
    rw [← hlength, List.getElem?_append_right (Nat.le_add_right _ _), Nat.add_sub_cancel_left,
      List.getElem?_replicate, hlength]
    split
    · next hoffset =>
      have hrow : (system.grow [] rows).rows[system.rows.length + offset]? = some rows[offset] := by
        rw [rows_grow, List.getElem?_append_right (Nat.le_add_right _ _), Nat.add_sub_cancel_left,
          List.getElem?_eq_getElem hoffset]
      have hunbound : ∀ binding ∈ (system.grow [] rows).bindings,
          binding.row ≠ system.rows.length + offset := by
        intro binding hbinding
        have hlt := hsystem.bound_lt hbinding
        omega
      rw [residual_unbound hgrown hsupplied hfound hrow hunbound]
      exact congrArg some (hholds _ (List.getElem_mem hoffset))
    · next hoffset =>
      apply List.getElem?_eq_none
      rw [length_residuals hgrown hsupplied hfound, rows_grow, List.length_append]
      omega

/-- The rows that fail stay the same if rows that hold are appended. -/
theorem failsAt_grow_rows (position : Nat) :
    ConstraintMatrix.FailsAt witness ((system.grow [] rows).matrix.publicBindings inputs)
        (residuals ++ List.replicate rows.length 0) position ↔
      ConstraintMatrix.FailsAt witness (system.matrix.publicBindings inputs) residuals
        position := by
  rw [failsAt_iff_residual hsystem hsupplies hresiduals,
    failsAt_iff_residual hgrown (supplies_grow_rows rows hsupplies)
      (residuals_grow_rows hsystem hgrown hholds hsupplies hresiduals)]
  apply exists_congr
  intro residual
  rw [List.getElem?_append]
  split
  · exact Iff.rfl
  · next hposition =>
    rw [List.getElem?_eq_none (Nat.not_lt.mp hposition), List.getElem?_replicate]
    constructor
    · rintro ⟨hfound, hne⟩
      split at hfound
      · exact absurd (Option.some.inj hfound).symm hne
      · cases hfound
    · rintro ⟨⟨⟩, _⟩

omit hgrown hholds in
/-- A row that was there before is rejected for the same reason. -/
theorem rejectionAt_grow_rows {position : Nat} {residual : Element F}
    (hresidual : residuals[position]? = some residual) :
    (system.grow [] rows).matrix.rejectionAt (system.grow [] rows).selectorColumns witness
        ((system.grow [] rows).matrix.publicBindings inputs) residual position =
      system.matrix.rejectionAt system.selectorColumns witness
        (system.matrix.publicBindings inputs) residual position := by
  have hposition : position < system.rows.length := by
    rw [← length_residuals hsystem hsupplies hresiduals]
    exact (List.getElem?_eq_some_iff.mp hresidual).1
  have hrow := List.getElem?_eq_getElem hposition
  have hrow' : (system.grow [] rows).rows[position]? = some system.rows[position] := by
    rw [rows_grow, List.getElem?_append_left hposition, hrow]
  rw [ConstraintMatrix.rejectionAt, ConstraintMatrix.rejectionAt, wiresAt_matrix witness hrow,
    wiresAt_matrix witness hrow', selectorsAt_selectorColumns hrow,
    selectorsAt_selectorColumns hrow']
  rfl

end Appended

/-- Verification does not see appended rows that hold for every witness, whatever the
arguments are. -/
theorem WellFormed.verify_grow_rows {system : System F} (hsystem : system.WellFormed)
    {rows : List (Row F)} (hgrown : (system.grow [] rows).WellFormed)
    (hholds : ∀ assigned, ∀ row ∈ rows, row.Holds assigned) (given givenInputs : Value) :
    (system.grow [] rows).matrix.verify given givenInputs =
      system.matrix.verify given givenInputs := by
  refine ConstraintMatrix.verify_congr rfl rfl rfl fun witness inputs hsupplies => ?_
  have hsupplied := supplies_grow_rows rows hsupplies
  obtain ⟨residuals, hresiduals, _⟩ := ConstraintMatrix.residuals_eq hsystem.wellShaped hsupplies
  have hresiduals' := residuals_grow_rows hsystem hgrown (hholds _) hsupplies hresiduals
  have hfails := failsAt_grow_rows hsystem hgrown (hholds _) hsupplies hresiduals
  rcases ConstraintMatrix.verify_cases hsystem.wellShaped hsupplies hresiduals with
    ⟨hnone, hverify⟩ | ⟨row, residual, hleast, hresidual, hverify⟩
  · rw [hverify]
    apply ConstraintMatrix.verify_eq_ok_of_forall hgrown.wellShaped hsupplied hresiduals'
    intro row hrow
    exact hnone row ((hfails row).mp hrow)
  · have hleast' : IsLeast {row | ConstraintMatrix.FailsAt witness
        ((system.grow [] rows).matrix.publicBindings inputs)
        (residuals ++ List.replicate rows.length 0) row} row := by
      simpa only [hfails] using hleast
    have hresidual' : (residuals ++ List.replicate rows.length 0)[row]? = some residual := by
      rw [List.getElem?_append_left (List.getElem?_eq_some_iff.mp hresidual).1, hresidual]
    rw [hverify, ConstraintMatrix.verify_eq_error_of_isLeast hgrown.wellShaped hsupplied
      hresiduals' hleast' hresidual', rejectionAt_grow_rows hsystem hsupplies hresiduals hresidual]

namespace WellFormed

variable {system : System F} (hsystem : system.WellFormed) (hnumVars : system.numVars ≠ 0)

include hsystem hnumVars

theorem grow_paddingRows : (system.grow [] system.paddingRows).WellFormed := by
  have hwires := hsystem.wires_paddingRows_lt
  rw [inhabited_of_ne_zero hnumVars] at hwires
  exact hsystem.grow [] hwires

/-- Padding does not change what verification says. -/
theorem verify_padded (given givenInputs : Value) :
    system.padded.matrix.verify given givenInputs = system.matrix.verify given givenInputs := by
  rw [padded_of_ne_zero hnumVars]
  exact hsystem.verify_grow_rows (hsystem.grow_paddingRows hnumVars)
    (holds_paddingRows system) given givenInputs

/-- The residuals of the rows that padding adds are zero. -/
theorem residuals_padded {given givenInputs : Value} {witness inputs residuals : List (Element F)}
    (hsupplies : system.matrix.Supplies given givenInputs witness inputs)
    (hresiduals : system.matrix.residuals given givenInputs = .ok residuals) :
    system.padded.matrix.residuals given givenInputs =
      .ok (residuals ++ List.replicate (system.padded.size - system.size) 0) := by
  have hcount : system.padded.size - system.size = system.paddingRows.length := by
    rw [size_padded, inhabited_of_ne_zero hnumVars, paddingRows, List.length_replicate]
  rw [padded_of_ne_zero hnumVars] at hcount ⊢
  rw [hcount]
  exact residuals_grow_rows hsystem (hsystem.grow_paddingRows hnumVars)
    (holds_paddingRows system _) hsupplies hresiduals

end WellFormed

/-! ### A system without variables -/

section Empty

variable {system : System F} (hsystem : system.WellFormed) (hnumVars : system.numVars = 0)

include hsystem hnumVars

/-- Without variables there is nothing else. -/
theorem WellFormed.eq_nil_of_numVars :
    system.rows = [] ∧ system.bindings = [] ∧ ∀ constant, system.reserved? constant = none := by
  have hrows : system.rows = [] := by
    rw [List.eq_nil_iff_forall_not_mem]
    intro row hrow
    have hlt := hsystem.wires_lt row hrow row.wires.w1 List.mem_cons_self
    omega
  refine ⟨hrows, ?_, ?_⟩
  · rw [List.eq_nil_iff_forall_not_mem]
    intro binding hbinding
    have hlt := hsystem.bound_lt hbinding
    rw [hrows] at hlt
    exact Nat.not_lt_zero _ hlt
  · intro constant
    rw [Option.eq_none_iff_forall_ne_some]
    intro index hreserved
    have hlt := hsystem.reserved_lt hreserved
    omega

/-- Padding gives a system without variables one variable and one row, which forces the
variable to be zero. -/
theorem WellFormed.padded_of_numVars_eq_zero :
    system.padded.numVars = 1 ∧ system.padded.rows = [.constant 0 0] ∧
      system.padded.bindings = [] := by
  obtain ⟨hrows, hbindings, hreserved⟩ := hsystem.eq_nil_of_numVars hnumVars
  have hinhabited : system.inhabited.rows = [.constant 0 0] := by
    rw [inhabited_of_eq_zero hnumVars, reserve_of_none (hreserved .zero), rows_remember,
      rows_grow, hrows, hnumVars]
    rfl
  refine ⟨?_, ?_, ?_⟩
  · change system.inhabited.numVars = 1
    rw [inhabited_of_eq_zero hnumVars, reserve_of_none (hreserved .zero), numVars_remember,
      numVars_grow, hnumVars]
    rfl
  · change system.inhabited.rows ++ system.inhabited.paddingRows = _
    rw [paddingRows, size, hinhabited]
    rfl
  · change system.inhabited.bindings = []
    rw [bindings_inhabited, hbindings]

theorem WellFormed.verify_padded_of_numVars_eq_zero (hphase : system.phase ≠ .proving)
    (given givenInputs : Value) :
    system.padded.matrix.verify given givenInputs = .ok () ↔
      given.elements F = .ok [0] ∧ givenInputs.elements F = .ok [] := by
  obtain ⟨hcount, hrows, hbindings⟩ := hsystem.padded_of_numVars_eq_zero hnumVars
  have haccepts (witness inputs : List (Element F)) :
      system.padded.Accepts witness inputs ↔ witness = [0] ∧ inputs = [] := by
    have hgates : system.padded.gates = [.constant 0 0] := by
      rw [gates, hrows, hbindings]
      rfl
    constructor
    · rintro ⟨hlength, hsatisfied, hinputs⟩
      obtain ⟨value, rfl⟩ := List.length_eq_one_iff.mp (hlength.trans hcount)
      rw [Satisfied, hgates, List.forall_mem_singleton, Row.holds_constant] at hsatisfied
      rw [hbindings] at hinputs
      exact ⟨congrArg (fun value => [value]) hsatisfied, hinputs⟩
    · rintro ⟨rfl, rfl⟩
      refine ⟨hcount.symm, ?_, by rw [hbindings]; rfl⟩
      rw [Satisfied, hgates, List.forall_mem_singleton, Row.holds_constant]
      rfl
  rw [verify_eq_ok_iff (hsystem.padded hphase)]
  constructor
  · rintro ⟨witness, inputs, hwitness, hinputs, haccepted⟩
    obtain ⟨rfl, rfl⟩ := (haccepts witness inputs).mp haccepted
    exact ⟨hwitness, hinputs⟩
  · rintro ⟨hwitness, hinputs⟩
    exact ⟨[0], [], hwitness, hinputs, (haccepts _ _).mpr ⟨rfl, rfl⟩⟩

end Empty

end System

end Plonkish
