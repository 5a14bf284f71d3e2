import Plonkish.Proofs.Run.Calls
import Plonkish.Proofs.System.Rejection

/-!
# Residuals of systems that were built

Every operation leaves each binding with a constant row of its own, in the order of the
bindings.  Hence the residuals of a system that was built decide what verification says,
although they are never compared with the witness.
-/

namespace Plonkish

variable {F : BaseField}

namespace Operation

/-- On a system that was built, in any phase, verification fails exactly if a row is not
satisfied, at the first such row, and because of a public input exactly if a binding names
that row.  Of an accepted witness every other list of public inputs is refused at the
first binding where it differs. -/
theorem residuals_decide_verification (quotient : QuotientDomain) (operations : List Operation)
    {system : System F} (hreached : (System.empty F quotient).after operations = system)
    {given givenInputs : Value} {witness inputs : List (Element F)}
    (hsupplies : system.matrix.Supplies given givenInputs witness inputs) :
    ∃ residuals rows,
      system.matrix.residuals given givenInputs = .ok residuals ∧
      system.matrix.unsatisfiedRows given givenInputs = .ok rows ∧
      (system.matrix.verify given givenInputs = .ok () ↔ rows = []) ∧
      (∀ row, rows.head? = some row → ∃ residual, residuals[row]? = some residual ∧
        ((∃ (position : Nat) (binding : Binding) (input : Element F),
            system.bindings[position]? = some binding ∧ inputs[position]? = some input ∧
            binding.row = row ∧ residual = input - assignment witness binding.boundVar ∧
            system.matrix.verify given givenInputs =
              .error (.rejected (.publicInputMismatch row binding.boundVar input.val
                (assignment witness binding.boundVar).val))) ∨
          (∀ binding ∈ system.bindings, binding.row ≠ row) ∧
            ∃ gate, system.rows[row]? = some gate ∧
              system.matrix.verify given givenInputs = .error (.rejected (.unsatisfiedGate row
                ((gate.wires.map (assignment witness)).toList.map Element.val)
                (gate.selectors.toList.map Element.val) residual.val)))) ∧
      (system.matrix.verify given givenInputs = .ok () →
        inputs = system.bindings.map (fun binding => assignment witness binding.boundVar) ∧
        ∀ givenOther other, givenOther.elements F = .ok other → other.length = inputs.length →
          other ≠ inputs → ∃ (position : Nat) (binding : Binding) (input value : Element F),
            system.bindings[position]? = some binding ∧ other[position]? = some input ∧
            inputs[position]? = some value ∧ input ≠ value ∧
            (∀ earlier < position, other[earlier]? = inputs[earlier]?) ∧
            system.matrix.verify given givenOther = .error (.rejected
              (.publicInputMismatch binding.row binding.boundVar input.val value.val))) := by
  have hsystem : system.WellFormed :=
    hreached ▸ (System.wellFormed_empty F quotient).after operations
  obtain ⟨residuals, hresiduals, _⟩ := ConstraintMatrix.residuals_eq hsystem.wellShaped hsupplies
  obtain ⟨rows, hrows, _⟩ := ConstraintMatrix.unsatisfiedRows_eq hresiduals
  refine ⟨residuals, rows, hresiduals, hrows,
    System.verify_eq_ok_iff_nil hsystem hsupplies hresiduals hrows,
    fun row => System.verify_of_head hsystem hsupplies hresiduals hrows, ?_⟩
  rw [System.verify_elements_iff hsystem hsupplies.witness_eq hsupplies.inputs_eq]
  intro haccepts
  exact ⟨haccepts.publicInputs_eq, fun givenOther other hother hlength hne =>
    haccepts.verify_other_inputs hsystem hsupplies.witness_eq hother hlength hne⟩

/-- A sum whose first term and result are public inputs. -/
def publicSum : System .goldilocks :=
  (System.empty .goldilocks default).after [newVariable (.int 2), newVariable (.int 3),
    preparePublicInput (.int 0), add (.int 0) (.int 1), preparePublicInput (.int 2), pad]

/-- A wrong sum as public input: the residual is by how much it is wrong. -/
theorem residuals_decide_verification_sum :
    publicSum.matrix.Supplies (.list [.int 2, .int 3, .int 5]) (.list [.int 2, .int 6])
        [2, 3, 5] [2, 6] ∧
      ∃ residuals, publicSum.matrix.residuals (.list [.int 2, .int 3, .int 5])
          (.list [.int 2, .int 6]) = .ok residuals ∧
        residuals[2]? = some (6 - 5) ∧
        publicSum.matrix.verify (.list [.int 2, .int 3, .int 5]) (.list [.int 2, .int 6]) =
          .error (.rejected (.publicInputMismatch 2 2 6 5)) := by
  have hsupplies : publicSum.matrix.Supplies (.list [.int 2, .int 3, .int 5])
      (.list [.int 2, .int 6]) [2, 3, 5] [2, 6] := by
    constructor <;> decide +kernel
  have hbindings : publicSum.bindings = [⟨0, 0⟩, ⟨2, 2⟩] := by decide +kernel
  have hfound : publicSum.matrix.unsatisfiedRows (.list [.int 2, .int 3, .int 5])
      (.list [.int 2, .int 6]) = .ok [2] := by
    decide +kernel
  obtain ⟨residuals, rows, hresiduals, hrows, _, hhead, _⟩ :=
    residuals_decide_verification {} _ (show _ = publicSum from rfl) hsupplies
  cases hrows.symm.trans hfound
  obtain ⟨residual, hresidual, hreason⟩ := hhead 2 rfl
  rw [hbindings] at hreason
  refine ⟨hsupplies, residuals, hresiduals, ?_⟩
  rcases hreason with ⟨position, binding, input, hbinding, hinput, hrow, rfl, hverify⟩ |
    ⟨hunbound, _⟩
  · match position with
    | 0 =>
        cases hbinding
        cases hrow
    | 1 =>
        cases hbinding
        cases hinput
        exact ⟨hresidual, hverify⟩
  · exact absurd rfl (hunbound ⟨2, 2⟩ (by decide))

end Operation

end Plonkish
