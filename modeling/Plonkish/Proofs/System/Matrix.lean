import Plonkish.Proofs.Matrix.Agreement
import Plonkish.Proofs.System.WellFormed

/-!
# Systems as matrices

The matrix of a well-formed system is well shaped, and the residual of a row is that of
its gate.  Since every binding has a constant row of its own, the residual of that row
is the input less the value of the bound variable: what a comparison with the witness
finds, the residuals show as well.
-/

namespace Plonkish

variable {F : BaseField}

namespace System

theorem mem_gates_iff {system : System F} {row : Row F} :
    row ∈ system.gates ↔ ∃ position, system.rows[position]? = some row ∧
      ∀ binding ∈ system.bindings, binding.row ≠ position := by
  simp only [gates, List.mem_map, List.mem_filter, List.mem_zipIdx_iff_getElem?, decide_eq_true_eq,
    Prod.exists, exists_and_right, exists_eq_right, not_exists, not_and, ne_eq]

theorem selectorColumns_matrix (system : System F) :
    system.matrix.selectorColumns = .ok system.selectorColumns :=
  mapM_map_eq_ok Value.toColumn_map_element system.selectorColumns

theorem WellFormed.wellShaped {system : System F} (hsystem : system.WellFormed) :
    system.matrix.WellShaped system.selectorColumns where
  selectorColumns_eq := selectorColumns_matrix system
  length_wiring := rfl
  length_selectors := rfl
  length_wire := by simp [matrix, wiring, size]
  length_selector := by simp [matrix, selectorColumns, size]
  wire_lt := by
    simpa [matrix, wiring, Wires.toList, forall_and] using hsystem.wires_lt
  bindingRow_lt := by
    intro row hrow
    obtain ⟨binding, hbinding, rfl⟩ := List.mem_map.mp hrow
    exact ⟨Int.natCast_nonneg _, Int.ofNat_lt.mpr (hsystem.bound_lt hbinding)⟩
  bindingVar_lt := by
    intro index hindex
    obtain ⟨binding, hbinding, rfl⟩ := List.mem_map.mp hindex
    exact ⟨Int.natCast_nonneg _, Int.ofNat_lt.mpr (hsystem.boundVar_lt hbinding)⟩

section Row

variable {system : System F} {position : Nat} {row : Row F}

theorem wiresAt_matrix (witness : List (Element F)) (hrow : system.rows[position]? = some row) :
    system.matrix.wiresAt witness position = (row.wires.map (assignment witness)).toList := by
  simp [ConstraintMatrix.wiresAt, matrix, wiring, Wires.toList, Wires.map, hrow]

theorem selectorsAt_selectorColumns (hrow : system.rows[position]? = some row) :
    ConstraintMatrix.selectorsAt system.selectorColumns position = row.selectors.toList := by
  simp [ConstraintMatrix.selectorsAt, selectorColumns, Selectors.toList, hrow]

end Row

section Bindings

variable {system : System F} {inputs : List (Element F)}

theorem mem_publicBindings_iff {supplied : PublicBinding F} :
    supplied ∈ system.matrix.publicBindings inputs ↔
      ∃ (position : Nat) (binding : Binding) (value : Element F),
        system.bindings[position]? = some binding ∧
        inputs[position]? = some value ∧ ⟨binding.row, binding.boundVar, value⟩ = supplied := by
  have hbindings : system.matrix.publicBindings inputs =
      List.zipWith (fun binding value => ⟨binding.row, binding.boundVar, value⟩)
        system.bindings inputs := by
    rw [ConstraintMatrix.publicBindings, matrix, List.zip_map', List.zipWith_map_left]
    rfl
  simp only [hbindings, List.mem_iff_getElem?, List.getElem?_zipWith_eq_some]

/-- Every binding of the system is given an input. -/
theorem exists_publicBinding {given givenInputs : Value} {witness : List (Element F)}
    (hsupplies : system.matrix.Supplies given givenInputs witness inputs) {binding : Binding}
    (hbinding : binding ∈ system.bindings) :
    ∃ supplied ∈ system.matrix.publicBindings inputs, supplied.row = (binding.row : Int) := by
  obtain ⟨position, hposition, rfl⟩ := List.mem_iff_getElem.mp hbinding
  have hlength : inputs.length = system.bindings.length := by
    rw [hsupplies.length_vars, matrix, List.length_map]
  exact ⟨_, mem_publicBindings_iff.mpr ⟨position, _, _, List.getElem?_eq_getElem hposition,
    List.getElem?_eq_getElem (hlength ▸ hposition), rfl⟩, rfl⟩

/-- The rows of bindings come in the order of the bindings. -/
theorem WellFormed.row_lt_row_iff (hsystem : system.WellFormed) {first second : Nat}
    {left right : Binding} (hleft : system.bindings[first]? = some left)
    (hright : system.bindings[second]? = some right) :
    left.row < right.row ↔ first < second := by
  have hsorted : ∀ {first second : Nat} {left right : Binding},
      system.bindings[first]? = some left → system.bindings[second]? = some right →
      first < second → left.row < right.row := by
    intro first second left right hleft hright hlt
    obtain ⟨hfirst, rfl⟩ := List.getElem?_eq_some_iff.mp hleft
    obtain ⟨hsecond, rfl⟩ := List.getElem?_eq_some_iff.mp hright
    exact List.pairwise_iff_getElem.mp hsystem.bindings_sorted _ _ hfirst hsecond hlt
  refine ⟨fun hlt => ?_, hsorted hleft hright⟩
  by_contra hle
  rcases Nat.lt_or_eq_of_le (Nat.not_lt.mp hle) with hgt | rfl
  · exact Nat.lt_asymm hlt (hsorted hright hleft hgt)
  · rw [hleft, Option.some.injEq] at hright
    exact Nat.lt_irrefl _ (hright ▸ hlt)

/-- No two bindings name the same row. -/
theorem WellFormed.publicBinding_unique (hsystem : system.WellFormed)
    {left right : PublicBinding F} (hleft : left ∈ system.matrix.publicBindings inputs)
    (hright : right ∈ system.matrix.publicBindings inputs) (hrow : left.row = right.row) :
    left = right := by
  obtain ⟨first, binding, value, hbinding, hvalue, rfl⟩ := mem_publicBindings_iff.mp hleft
  obtain ⟨second, other, input, hother, hinput, rfl⟩ := mem_publicBindings_iff.mp hright
  have hsame : binding.row = other.row := Int.ofNat.inj hrow
  have hposition : first = second := by
    have hlt := hsystem.row_lt_row_iff hbinding hother
    have hgt := hsystem.row_lt_row_iff hother hbinding
    omega
  subst hposition
  cases hbinding.symm.trans hother
  cases hvalue.symm.trans hinput
  rfl

theorem WellFormed.lastPublic_of_mem (hsystem : system.WellFormed) {supplied : PublicBinding F}
    (hsupplied : supplied ∈ system.matrix.publicBindings inputs) {position : Nat}
    (hposition : supplied.row = (position : Int)) :
    ConstraintMatrix.lastPublic (system.matrix.publicBindings inputs) position 0 =
      supplied.value := by
  apply ConstraintMatrix.lastPublic_eq
  · intro other hother hrow
    rw [hsystem.publicBinding_unique hother hsupplied (hrow.trans hposition.symm)]
  · exact Or.inr ⟨supplied, hsupplied, hposition⟩

theorem lastPublic_of_unbound {position : Nat}
    (hunbound : ∀ binding ∈ system.bindings, binding.row ≠ position) :
    ConstraintMatrix.lastPublic (system.matrix.publicBindings inputs) position 0 = 0 := by
  apply ConstraintMatrix.lastPublic_eq
  · intro supplied hsupplied hrow
    obtain ⟨_, binding, _, hbinding, _, rfl⟩ := mem_publicBindings_iff.mp hsupplied
    exact absurd (Int.ofNat.inj hrow) (hunbound binding (List.mem_of_getElem? hbinding))
  · exact Or.inl rfl

end Bindings

section Residuals

variable {system : System F} {witness inputs residuals : List (Element F)}
  {given givenInputs : Value} (hsystem : system.WellFormed)
  (hsupplies : system.matrix.Supplies given givenInputs witness inputs)
  (hresiduals : system.matrix.residuals given givenInputs = .ok residuals)

include hsystem hsupplies hresiduals

theorem length_residuals : residuals.length = system.rows.length :=
  Int.ofNat.inj (ConstraintMatrix.length_residuals hsystem.wellShaped hsupplies hresiduals)

theorem residual_row {position : Nat} {row : Row F}
    (hrow : system.rows[position]? = some row) :
    residuals[position]? = some (Gate.residual (row.wires.map (assignment witness)) row.selectors
      (ConstraintMatrix.lastPublic (system.matrix.publicBindings inputs) position 0)) := by
  have hlt : position < residuals.length := by
    obtain ⟨hposition, _⟩ := List.getElem?_eq_some_iff.mp hrow
    rwa [length_residuals hsystem hsupplies hresiduals]
  have hat := List.getElem?_eq_getElem hlt
  have hresidual :=
    ConstraintMatrix.residualOfLists_eq_ok hsystem.wellShaped hsupplies hresiduals hat
  rw [wiresAt_matrix witness hrow, selectorsAt_selectorColumns hrow, Gate.residualOfLists,
    Wires.ofList?_toList, Selectors.ofList?_toList] at hresidual
  rw [hat, ← Except.ok.inj hresidual]

/-- The residual of a row without a binding is that of its gate. -/
theorem residual_unbound {position : Nat} {row : Row F}
    (hrow : system.rows[position]? = some row)
    (hunbound : ∀ binding ∈ system.bindings, binding.row ≠ position) :
    residuals[position]? =
      some (Gate.residual (row.wires.map (assignment witness)) row.selectors 0) := by
  rw [residual_row hsystem hsupplies hresiduals hrow, lastPublic_of_unbound hunbound]

/-- The residual of the row of a binding is the input less the value of the variable. -/
theorem residual_bound {position : Nat} {supplied : PublicBinding F}
    (hsupplied : supplied ∈ system.matrix.publicBindings inputs)
    (hposition : supplied.row = (position : Int)) :
    residuals[position]? =
      some (supplied.value - assignment witness supplied.boundVar.toNat) := by
  have hpublic := hsystem.lastPublic_of_mem hsupplied hposition
  obtain ⟨_, binding, _, hbinding, _, rfl⟩ := mem_publicBindings_iff.mp hsupplied
  have hrow := hsystem.bound_row binding (List.mem_of_getElem? hbinding)
  rw [Int.ofNat.inj hposition] at hrow
  rw [residual_row hsystem hsupplies hresiduals hrow, hpublic, Row.residual_constant, zero_add]
  rfl

/-- A row fails exactly if its residual is not zero. -/
theorem failsAt_iff_residual {position : Nat} :
    ConstraintMatrix.FailsAt witness (system.matrix.publicBindings inputs) residuals position ↔
      ∃ residual, residuals[position]? = some residual ∧ residual ≠ 0 := by
  refine ⟨?_, Or.inr⟩
  rintro (⟨supplied, hsupplied, hposition, hmismatch⟩ | hresidual)
  · exact ⟨_, residual_bound hsystem hsupplies hresiduals hsupplied hposition,
      sub_ne_zero.mpr hmismatch⟩
  · exact hresidual

/-- A row fails exactly if it has no binding and its gate does not hold, or its binding does not
match. -/
theorem failsAt_iff_row {position : Nat} :
    ConstraintMatrix.FailsAt witness (system.matrix.publicBindings inputs) residuals position ↔
      (∃ row, system.rows[position]? = some row ∧
        (∀ binding ∈ system.bindings, binding.row ≠ position) ∧ ¬ row.Holds (assignment witness)) ∨
      ∃ supplied ∈ system.matrix.publicBindings inputs, supplied.row = (position : Int) ∧
        ConstraintMatrix.Mismatched witness supplied := by
  constructor
  · rw [failsAt_iff_residual hsystem hsupplies hresiduals]
    rintro ⟨residual, hresidual, hne⟩
    by_cases hbound : ∃ supplied ∈ system.matrix.publicBindings inputs,
        supplied.row = (position : Int)
    · obtain ⟨supplied, hsupplied, hposition⟩ := hbound
      rw [residual_bound hsystem hsupplies hresiduals hsupplied hposition,
        Option.some.injEq] at hresidual
      exact Or.inr ⟨supplied, hsupplied, hposition, sub_ne_zero.mp (hresidual ▸ hne)⟩
    · have hunbound : ∀ binding ∈ system.bindings, binding.row ≠ position := by
        rintro binding hbinding rfl
        obtain ⟨supplied, hsupplied, hrow⟩ := exists_publicBinding hsupplies hbinding
        exact hbound ⟨supplied, hsupplied, hrow⟩
      have hlt : position < system.rows.length := by
        obtain ⟨hposition, _⟩ := List.getElem?_eq_some_iff.mp hresidual
        rwa [← length_residuals hsystem hsupplies hresiduals]
      have hrow := List.getElem?_eq_getElem hlt
      rw [residual_unbound hsystem hsupplies hresiduals hrow hunbound,
        Option.some.injEq] at hresidual
      exact Or.inl ⟨_, hrow, hunbound, fun hholds => hne (hresidual.symm.trans hholds)⟩
  · rintro (⟨row, hrow, hunbound, hfails⟩ | hmismatch)
    · exact Or.inr ⟨_, residual_unbound hsystem hsupplies hresiduals hrow hunbound, hfails⟩
    · exact Or.inl hmismatch

end Residuals

end System

end Plonkish
