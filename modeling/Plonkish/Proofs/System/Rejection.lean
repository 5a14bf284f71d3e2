import Mathlib.Data.List.Sort
import Plonkish.Proofs.System.Acceptance

/-!
# What verification rejects

On a well-formed system verification fails at the first row that the residuals show.
The reason is a public input if a binding names the row, and the gate otherwise.  Of an
accepted witness every change of the public inputs is found at the first binding that
it concerns.
-/

namespace Plonkish

variable {F : BaseField}

namespace System

section Reason

variable {system : System F} {witness inputs residuals : List (Element F)}
  {given givenInputs : Value} (hsystem : system.WellFormed)

include hsystem

theorem rejectionAt_of_mismatched {position : Nat} {supplied : PublicBinding F}
    (hsupplied : supplied ∈ system.matrix.publicBindings inputs)
    (hposition : supplied.row = (position : Int))
    (hmismatch : ConstraintMatrix.Mismatched witness supplied)
    (residual : Element F) :
    system.matrix.rejectionAt system.selectorColumns witness (system.matrix.publicBindings inputs)
        residual position =
      .publicInputMismatch position supplied.boundVar supplied.value.val
        (assignment witness supplied.boundVar.toNat).val := by
  have hsome := ConstraintMatrix.mismatch?_isSome_iff.mpr
    ⟨supplied, hsupplied, hposition, hmismatch⟩
  obtain ⟨found, hfound⟩ := Option.isSome_iff_exists.mp hsome
  have hmatches := List.find?_some (show List.find? _ _ = some found from hfound)
  have hsame : found = supplied :=
    hsystem.publicBinding_unique (List.mem_of_find?_eq_some hfound) hsupplied
      ((of_decide_eq_true hmatches).1.trans hposition.symm)
  rw [ConstraintMatrix.rejectionAt, hfound, hsame]

omit hsystem in
theorem rejectionAt_of_unbound {position : Nat} {row : Row F}
    (hrow : system.rows[position]? = some row)
    (hunbound : ∀ binding ∈ system.bindings, binding.row ≠ position) (residual : Element F) :
    system.matrix.rejectionAt system.selectorColumns witness (system.matrix.publicBindings inputs)
        residual position =
      .unsatisfiedGate position ((row.wires.map (assignment witness)).toList.map Element.val)
        (row.selectors.toList.map Element.val) residual.val := by
  have hnone : ConstraintMatrix.mismatch? witness (system.matrix.publicBindings inputs)
      position = none := by
    rw [← Option.not_isSome_iff_eq_none, ConstraintMatrix.mismatch?_isSome_iff]
    rintro ⟨supplied, hsupplied, hposition, _⟩
    obtain ⟨_, binding, _, hbinding, _, rfl⟩ := mem_publicBindings_iff.mp hsupplied
    exact hunbound binding (List.mem_of_getElem? hbinding) (Int.ofNat.inj hposition)
  rw [ConstraintMatrix.rejectionAt, hnone, wiresAt_matrix witness hrow,
    selectorsAt_selectorColumns hrow]

end Reason

section Rows

variable {system : System F} {witness inputs residuals : List (Element F)}
  {given givenInputs : Value} {rows : List Nat} (hsystem : system.WellFormed)
  (hsupplies : system.matrix.Supplies given givenInputs witness inputs)
  (hresiduals : system.matrix.residuals given givenInputs = .ok residuals)
  (hrows : system.matrix.unsatisfiedRows given givenInputs = .ok rows)

include hsystem hsupplies hresiduals hrows

/-- The residuals alone show every row that fails. -/
theorem mem_unsatisfiedRows_iff {row : Nat} :
    row ∈ rows ↔ ConstraintMatrix.FailsAt witness (system.matrix.publicBindings inputs)
      residuals row := by
  obtain ⟨found, hfound, _, hmem⟩ := ConstraintMatrix.unsatisfiedRows_eq hresiduals
  cases hfound.symm.trans hrows
  rw [hmem, failsAt_iff_residual hsystem hsupplies hresiduals]

theorem isLeast_failsAt_of_head {row : Nat} (hhead : rows.head? = some row) :
    IsLeast {row | ConstraintMatrix.FailsAt witness (system.matrix.publicBindings inputs)
      residuals row} row := by
  obtain ⟨found, hfound, hsorted, _⟩ := ConstraintMatrix.unsatisfiedRows_eq hresiduals
  cases hfound.symm.trans hrows
  obtain ⟨later, rfl⟩ := List.head?_eq_some_iff.mp hhead
  constructor
  · exact (mem_unsatisfiedRows_iff hsystem hsupplies hresiduals hrows).mp List.mem_cons_self
  · intro other hother
    have hmem := (mem_unsatisfiedRows_iff hsystem hsupplies hresiduals hrows).mpr hother
    rcases List.mem_cons.mp hmem with rfl | hlater
    · exact Nat.le_refl other
    · exact Nat.le_of_lt (List.rel_of_pairwise_cons hsorted hlater)

theorem verify_eq_ok_iff_nil : system.matrix.verify given givenInputs = .ok () ↔ rows = [] := by
  rw [verify_elements_iff hsystem hsupplies.witness_eq hsupplies.inputs_eq,
    accepts_iff_forall_not_failsAt hsystem hsupplies hresiduals, List.eq_nil_iff_forall_not_mem]
  apply forall_congr'
  intro row
  rw [mem_unsatisfiedRows_iff hsystem hsupplies hresiduals hrows]

/-- Verification fails at the first row that is not satisfied: because of the public
input, whose difference from the value of its variable is the residual, if a binding
names the row, and because of the gate otherwise. -/
theorem verify_of_head {row : Nat} (hhead : rows.head? = some row) :
    ∃ residual, residuals[row]? = some residual ∧
      ((∃ (position : Nat) (binding : Binding) (input : Element F),
          system.bindings[position]? = some binding ∧ inputs[position]? = some input ∧
          binding.row = row ∧ residual = input - assignment witness binding.boundVar ∧
          system.matrix.verify given givenInputs =
            .error (.rejected (.publicInputMismatch row binding.boundVar input.val
              (assignment witness binding.boundVar).val))) ∨
        (∀ binding ∈ system.bindings, binding.row ≠ row) ∧
          ∃ gate, system.rows[row]? = some gate ∧
            system.matrix.verify given givenInputs = .error (.rejected (.unsatisfiedGate row
              ((gate.wires.map (assignment witness)).toList.map Element.val)
              (gate.selectors.toList.map Element.val) residual.val))) := by
  have hleast := isLeast_failsAt_of_head hsystem hsupplies hresiduals hrows hhead
  have hverify {residual : Element F} (hresidual : residuals[row]? = some residual) :=
    ConstraintMatrix.verify_eq_error_of_isLeast hsystem.wellShaped hsupplies hresiduals hleast
      hresidual
  rcases (failsAt_iff_row hsystem hsupplies hresiduals).mp hleast.1 with
    ⟨gate, hgate, hunbound, _⟩ | ⟨supplied, hsupplied, hrow, hmismatch⟩
  · have hresidual := residual_unbound hsystem hsupplies hresiduals hgate hunbound
    refine ⟨_, hresidual, Or.inr ⟨hunbound, gate, hgate, ?_⟩⟩
    rw [hverify hresidual, rejectionAt_of_unbound hgate hunbound]
  · have hresidual := residual_bound hsystem hsupplies hresiduals hsupplied hrow
    have hreason := rejectionAt_of_mismatched hsystem hsupplied hrow hmismatch
    obtain ⟨position, binding, input, hbinding, hinput, rfl⟩ :=
      mem_publicBindings_iff.mp hsupplied
    refine ⟨_, hresidual, Or.inl ⟨position, binding, input, hbinding, hinput, Int.ofNat.inj hrow,
      rfl, ?_⟩⟩
    rw [hverify hresidual, hreason]
    rfl

end Rows

theorem exists_first_difference {α : Type} {left right : List α}
    (hlength : left.length = right.length) (hne : left ≠ right) :
    ∃ (position : Nat) (entry other : α), left[position]? = some entry ∧
      right[position]? = some other ∧ entry ≠ other ∧
      ∀ earlier < position, left[earlier]? = right[earlier]? := by
  classical
  induction left generalizing right with
  | nil => exact absurd (List.length_eq_zero_iff.mp hlength.symm).symm hne
  | cons entry left ih =>
      cases right with
      | nil => cases hlength
      | cons other right =>
          by_cases hsame : entry = other
          · subst hsame
            have htail : left ≠ right := fun heq => hne (by rw [heq])
            obtain ⟨position, entry', other', hentry, hother, hdiffer, hearlier⟩ :=
              ih (Nat.succ.inj hlength) htail
            refine ⟨position + 1, entry', other', hentry, hother, hdiffer, ?_⟩
            intro earlier hlt
            cases earlier with
            | zero => rfl
            | succ earlier => exact hearlier earlier (Nat.lt_of_succ_lt_succ hlt)
          · exact ⟨0, entry, other, rfl, rfl, hsame, nofun⟩

theorem Accepts.input_eq {system : System F} {witness inputs : List (Element F)}
    (haccepts : system.Accepts witness inputs) {position : Nat} {binding : Binding}
    (hbinding : system.bindings[position]? = some binding) :
    inputs[position]? = some (assignment witness binding.boundVar) := by
  rw [haccepts.publicInputs_eq, List.getElem?_map, hbinding, Option.map_some]

/-- Where a row that fails is appended to what is accepted, it is the only one. -/
theorem unsatisfiedRows_grow_row {system : System F} (hsystem : system.WellFormed) {row : Row F}
    (hrow : ∀ index ∈ row.wires.toList, index < system.numVars)
    {witness inputs : List (Element F)} (haccepts : system.Accepts witness inputs)
    (hfails : ¬ row.Holds (assignment witness)) {given givenInputs : Value}
    (hwitness : given.elements F = .ok witness) (hinputs : givenInputs.elements F = .ok inputs) :
    (system.grow [] [row]).matrix.unsatisfiedRows given givenInputs = .ok [system.size] := by
  have hgrown := hsystem.grow_row hrow
  have hsupplied := haccepts.supplies hwitness hinputs
  have hsupplies : (system.grow [] [row]).matrix.Supplies given givenInputs witness inputs :=
    ⟨hwitness, hinputs, hsupplied.length_witness, hsupplied.length_vars, hsupplied.length_rows⟩
  obtain ⟨residuals, hresiduals, _⟩ := ConstraintMatrix.residuals_eq hgrown.wellShaped hsupplies
  obtain ⟨rows, hrows, hsorted, _⟩ := ConstraintMatrix.unsatisfiedRows_eq hresiduals
  have hlast : ∀ position, position ∈ rows ↔ position ∈ [system.size] := by
    intro position
    rw [mem_unsatisfiedRows_iff hgrown hsupplies hresiduals hrows,
      failsAt_iff_row hgrown hsupplies hresiduals, List.mem_singleton]
    constructor
    · rintro (⟨gate, hgate, hunbound, hfailsGate⟩ | ⟨supplied, hsupplied, _, hmismatch⟩)
      · rw [System.rows_grow, List.getElem?_append] at hgate
        by_cases hlt : position < system.rows.length
        · rw [if_pos hlt] at hgate
          exact absurd (haccepts.satisfied gate (mem_gates_iff.mpr ⟨position, hgate, hunbound⟩))
            hfailsGate
        · rw [if_neg hlt] at hgate
          obtain ⟨hposition, _⟩ := List.getElem?_eq_some_iff.mp hgate
          rw [List.length_singleton] at hposition
          rw [size]
          omega
      · obtain ⟨index, binding, input, hbinding, hinput, rfl⟩ :=
          mem_publicBindings_iff.mp hsupplied
        rw [haccepts.input_eq hbinding, Option.some.injEq] at hinput
        exact absurd hinput.symm hmismatch
    · rintro rfl
      refine Or.inl ⟨row, ?_, fun binding hbinding => (hsystem.bound_lt hbinding).ne, hfails⟩
      rw [System.rows_grow, size, List.getElem?_append_right (Nat.le_refl _), Nat.sub_self]
      rfl
  rw [hrows, hsorted.eq_of_mem_iff (List.pairwise_singleton _ _) hlast]

section OtherInputs

variable {system : System F} (hsystem : system.WellFormed)
  {witness inputs other : List (Element F)} {given givenOther : Value}
  (haccepts : system.Accepts witness inputs)

include hsystem haccepts

/-- The gates hold for the witness, so only a binding whose input was changed makes a row
fail, and the rows of bindings come in the order of the bindings. -/
theorem Accepts.isLeast_failsAt
    (hsupplies : system.matrix.Supplies given givenOther witness other)
    {residuals : List (Element F)}
    (hresiduals : system.matrix.residuals given givenOther = .ok residuals)
    {position : Nat} {binding : Binding} (hbinding : system.bindings[position]? = some binding)
    (hfails : ConstraintMatrix.FailsAt witness (system.matrix.publicBindings other) residuals
      binding.row)
    (hearlier : ∀ earlier < position, other[earlier]? = inputs[earlier]?) :
    IsLeast {row | ConstraintMatrix.FailsAt witness (system.matrix.publicBindings other)
      residuals row} binding.row := by
  refine ⟨hfails, ?_⟩
  intro row hrow
  rcases (failsAt_iff_row hsystem hsupplies hresiduals).mp hrow with
    ⟨gate, hgate, hunbound, hfailsGate⟩ | ⟨changed, hchanged, hchangedRow, hmismatch⟩
  · exact absurd (haccepts.satisfied gate (mem_gates_iff.mpr ⟨row, hgate, hunbound⟩)) hfailsGate
  · obtain ⟨index, found, input, hindex, hinput, rfl⟩ := mem_publicBindings_iff.mp hchanged
    rw [← Int.ofNat.inj hchangedRow]
    by_contra hlt
    have hindexed := (hsystem.row_lt_row_iff hindex hbinding).mp (Nat.lt_of_not_le hlt)
    rw [hearlier index hindexed, haccepts.input_eq hindex, Option.some.injEq] at hinput
    exact hmismatch hinput.symm

/-- Where public inputs other than the accepted ones are supplied, verification fails at
the first binding whose input is another. -/
theorem Accepts.verify_other_inputs (hwitness : given.elements F = .ok witness)
    (hother : givenOther.elements F = .ok other) (hlength : other.length = inputs.length)
    (hne : other ≠ inputs) :
    ∃ (position : Nat) (binding : Binding) (input value : Element F),
      system.bindings[position]? = some binding ∧ other[position]? = some input ∧
      inputs[position]? = some value ∧ input ≠ value ∧
      (∀ earlier < position, other[earlier]? = inputs[earlier]?) ∧
      system.matrix.verify given givenOther =
        .error (.rejected (.publicInputMismatch binding.row binding.boundVar input.val
          value.val)) := by
  obtain ⟨position, input, value, hinput, hvalue, hdiffer, hearlier⟩ :=
    exists_first_difference hlength hne
  have haccepted := haccepts.supplies hwitness (Value.elements_ofElements inputs)
  have hsupplies : system.matrix.Supplies given givenOther witness other :=
    ⟨hwitness, hother, haccepted.length_witness, hlength.trans haccepted.length_vars,
      hlength.trans haccepted.length_rows⟩
  obtain ⟨residuals, hresiduals, _⟩ := ConstraintMatrix.residuals_eq hsystem.wellShaped hsupplies
  have hlt : position < system.bindings.length := by
    obtain ⟨hlt, _⟩ := List.getElem?_eq_some_iff.mp hvalue
    rwa [haccepts.publicInputs_eq, List.length_map] at hlt
  have hbinding := List.getElem?_eq_getElem hlt
  have hactual := Option.some.inj (hvalue.symm.trans (haccepts.input_eq hbinding))
  have hsupplied := mem_publicBindings_iff.mpr ⟨position, _, input, hbinding, hinput, rfl⟩
  have hmismatch : ConstraintMatrix.Mismatched witness
      ⟨system.bindings[position].row, system.bindings[position].boundVar, input⟩ :=
    fun hsame => hdiffer (hsame.trans hactual.symm)
  have hleast := haccepts.isLeast_failsAt hsystem hsupplies hresiduals hbinding
    (Or.inl ⟨_, hsupplied, rfl, hmismatch⟩) hearlier
  refine ⟨position, _, input, value, hbinding, hinput, hvalue, hdiffer, hearlier, ?_⟩
  rw [ConstraintMatrix.verify_eq_error_of_isLeast hsystem.wellShaped hsupplies hresiduals hleast
    (residual_bound hsystem hsupplies hresiduals hsupplied rfl),
    rejectionAt_of_mismatched hsystem hsupplied rfl hmismatch, hactual]
  rfl

end OtherInputs

end System

end Plonkish
