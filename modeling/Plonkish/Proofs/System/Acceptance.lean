import Plonkish.Proofs.System.Matrix

/-!
# What verification accepts

On a well-formed system the check row by row accepts exactly the witnesses under
which every gate holds, together with the values of the bound variables as public
inputs.  So public inputs are a function of the witness.
-/

namespace Plonkish

variable {F : BaseField}

namespace System

/-- The witness satisfies the system and the public inputs are the values of the
bound variables. -/
structure Accepts (system : System F) (witness publicInputs : List (Element F)) : Prop where
  length_eq : witness.length = system.numVars
  satisfied : system.Satisfied (assignment witness)
  publicInputs_eq :
    publicInputs = system.bindings.map fun binding => assignment witness binding.boundVar

variable {system : System F} {witness inputs : List (Element F)} {given givenInputs : Value}

theorem Accepts.supplies (haccepts : system.Accepts witness inputs)
    (hgiven : given.elements F = .ok witness) (hgivenInputs : givenInputs.elements F = .ok inputs) :
    system.matrix.Supplies given givenInputs witness inputs := by
  have hcount : inputs.length = system.bindings.length := by
    rw [haccepts.publicInputs_eq, List.length_map]
  refine ⟨hgiven, hgivenInputs, ?_, ?_, ?_⟩
  · rw [haccepts.length_eq, matrix]
  · rw [hcount, matrix, List.length_map]
  · rw [hcount, matrix, List.length_map]

/-- A system accepts exactly if no row of its matrix fails. -/
theorem accepts_iff_forall_not_failsAt (hsystem : system.WellFormed)
    (hsupplies : system.matrix.Supplies given givenInputs witness inputs)
    {residuals : List (Element F)}
    (hresiduals : system.matrix.residuals given givenInputs = .ok residuals) :
    system.Accepts witness inputs ↔ ∀ position, ¬ ConstraintMatrix.FailsAt witness
      (system.matrix.publicBindings inputs) residuals position := by
  have hmatch : (∀ supplied ∈ system.matrix.publicBindings inputs,
      ¬ ConstraintMatrix.Mismatched witness supplied) ↔
      inputs = system.bindings.map fun binding => assignment witness binding.boundVar := by
    rw [← ConstraintMatrix.inputs_eq_map_iff hsupplies, matrix, List.map_map]
    rfl
  constructor
  · intro haccepts position hfails
    rw [failsAt_iff_row hsystem hsupplies hresiduals] at hfails
    rcases hfails with ⟨row, hrow, hunbound, hfails⟩ | ⟨supplied, hsupplied, _, hmismatch⟩
    · exact hfails (haccepts.satisfied row (mem_gates_iff.mpr ⟨position, hrow, hunbound⟩))
    · exact hmatch.mpr haccepts.publicInputs_eq supplied hsupplied hmismatch
  · intro hnone
    refine ⟨Int.ofNat.inj hsupplies.length_witness, ?_, hmatch.mp ?_⟩
    · intro row hrow
      obtain ⟨position, hposition, hunbound⟩ := mem_gates_iff.mp hrow
      by_contra hfails
      exact hnone position ((failsAt_iff_row hsystem hsupplies hresiduals).mpr
        (Or.inl ⟨row, hposition, hunbound, hfails⟩))
    · intro supplied hsupplied
      exact ((ConstraintMatrix.forall_not_failsAt_iff hsystem.wellShaped).mp hnone).2 supplied
        hsupplied

/-- Verification accepts a witness and public inputs of any kind exactly if they
stand for elements that the system accepts. -/
theorem verify_eq_ok_iff (hsystem : system.WellFormed) :
    system.matrix.verify given givenInputs = .ok () ↔
      ∃ witness inputs, given.elements F = .ok witness ∧ givenInputs.elements F = .ok inputs ∧
        system.Accepts witness inputs := by
  constructor
  · intro hverify
    obtain ⟨witness, inputs, hsupplies⟩ := ConstraintMatrix.exists_supplies_of_verify hverify
    obtain ⟨residuals, hresiduals, _⟩ :=
      ConstraintMatrix.residuals_eq hsystem.wellShaped hsupplies
    refine ⟨witness, inputs, hsupplies.witness_eq, hsupplies.inputs_eq, ?_⟩
    rw [accepts_iff_forall_not_failsAt hsystem hsupplies hresiduals]
    rcases ConstraintMatrix.verify_cases hsystem.wellShaped hsupplies hresiduals with
      ⟨hnone, _⟩ | ⟨_, _, _, _, hrejected⟩
    · exact hnone
    · rw [hverify] at hrejected
      cases hrejected
  · rintro ⟨witness, inputs, hgiven, hgivenInputs, haccepts⟩
    have hsupplies := haccepts.supplies hgiven hgivenInputs
    obtain ⟨residuals, hresiduals, _⟩ :=
      ConstraintMatrix.residuals_eq hsystem.wellShaped hsupplies
    exact ConstraintMatrix.verify_eq_ok_of_forall hsystem.wellShaped hsupplies hresiduals
      ((accepts_iff_forall_not_failsAt hsystem hsupplies hresiduals).mp haccepts)

theorem verify_elements_iff (hsystem : system.WellFormed)
    {publicInputs : List (Element F)} (hwitness : given.elements F = .ok witness)
    (hinputs : givenInputs.elements F = .ok publicInputs) :
    system.matrix.verify given givenInputs = .ok () ↔ system.Accepts witness publicInputs := by
  rw [verify_eq_ok_iff hsystem, hwitness, hinputs]
  constructor
  · rintro ⟨_, _, ⟨⟩, ⟨⟩, haccepts⟩
    exact haccepts
  · intro haccepts
    exact ⟨witness, publicInputs, rfl, rfl, haccepts⟩

theorem exists_accepts_of_verify (hsystem : system.WellFormed)
    (hwitness : given.elements F = .ok witness)
    (hverify : system.matrix.verify given givenInputs = .ok ()) :
    ∃ publicInputs, givenInputs.elements F = .ok publicInputs ∧
      system.Accepts witness publicInputs := by
  obtain ⟨found, publicInputs, hfound, hinputs, haccepts⟩ := (verify_eq_ok_iff hsystem).mp hverify
  rw [hwitness, Except.ok.injEq] at hfound
  exact ⟨publicInputs, hinputs, hfound ▸ haccepts⟩

end System

end Plonkish
