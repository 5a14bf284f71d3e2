import Plonkish.Proofs.Matrix.Arguments
import Plonkish.Proofs.Run.Calls
import Plonkish.Proofs.System.Matrix

/-!
# Malformed arguments of the two checks

A system that was built can be checked row by row or by its residuals.  Both refuse a wrong
number of values or of public inputs, and both refuse what is no element of the field, but
for one case: without rows the residuals do not look at the values.
-/

namespace Plonkish

namespace System

variable {F : BaseField}

/-- On a system that was built, in any phase, arguments of any kind are refused for what
they are by verification, by the residuals and by the search for unsatisfied rows alike,
with the same refusal.  Only what is no element is let through where there is no row. -/
theorem malformed_refused_alike (quotient : QuotientDomain) (operations : List Operation)
    {system : System F} (hreached : (empty F quotient).after operations = system)
    (given givenInputs : Value) {refusal : CircuitError} (hmalformed : refusal.Malformed) :
    (system.matrix.residuals given givenInputs = .error refusal ↔
        system.matrix.verify given givenInputs = .error refusal ∧
          (system.size = 0 → ∀ cause, refusal ≠ .parameter cause)) ∧
      (system.matrix.unsatisfiedRows given givenInputs = .error refusal ↔
        system.matrix.residuals given givenInputs = .error refusal) := by
  have hsystem : system.WellFormed := hreached ▸ (wellFormed_empty F quotient).after operations
  refine ⟨?_, ConstraintMatrix.unsatisfiedRows_eq_error_iff⟩
  rw [ConstraintMatrix.verify_eq_error_iff hsystem.wellShaped hmalformed]
  by_cases hrows : system.size = 0
  · have hempty : system.matrix.size = 0 := congrArg Int.ofNat hrows
    rw [ConstraintMatrix.residuals_eq_error_iff_of_empty hempty, forall_prop_of_true hrows]
  · have hsome : system.matrix.size ≠ 0 := fun hempty => hrows (Int.ofNat.inj hempty)
    rw [ConstraintMatrix.residuals_eq_error_iff hsystem.wellShaped hsome,
      forall_prop_of_false hrows, and_true]

/-- A variable and a row that fixes it. -/
def fixedZero : System .goldilocks :=
  (empty .goldilocks default).after [.newVariable (.int 0), .insertConstantGate (.int 0) (.int 0)]

/-- Where there is a row, both refuse an element of another field. -/
theorem malformed_refused_alike_foreign :
    (CircuitError.parameter (.foreignElement .bls12381 .goldilocks)).Malformed ∧
      fixedZero.matrix.verify (.list [.element (0 : Element .bls12381)]) (.list []) =
        .error (.parameter (.foreignElement .bls12381 .goldilocks)) ∧
      fixedZero.matrix.residuals (.list [.element (0 : Element .bls12381)]) (.list []) =
        .error (.parameter (.foreignElement .bls12381 .goldilocks)) := by
  have hverify : fixedZero.matrix.verify (.list [.element (0 : Element .bls12381)]) (.list []) =
      .error (.parameter (.foreignElement .bls12381 .goldilocks)) := by
    decide +kernel
  have hrows : fixedZero.size ≠ 0 := by decide +kernel
  have hmalformed : (CircuitError.parameter (.foreignElement .bls12381 .goldilocks)).Malformed :=
    trivial
  obtain ⟨hresiduals, _⟩ := malformed_refused_alike {} _ (show _ = fixedZero from rfl)
    (.list [.element (0 : Element .bls12381)]) (.list []) hmalformed
  exact ⟨hmalformed, hverify, hresiduals.mpr ⟨hverify, fun hempty => absurd hempty hrows⟩⟩

/-- A variable without a row: its value is not looked at by the residuals. -/
theorem foreign_value_without_rows :
    let system := (empty .goldilocks {}).after [.newVariable (.int 0)]
    system.matrix.verify (.list [.element (0 : Element .bls12381)]) (.list []) =
        .error (.parameter (.foreignElement .bls12381 .goldilocks)) ∧
      system.matrix.residuals (.list [.element (0 : Element .bls12381)]) (.list []) = .ok [] ∧
      system.matrix.unsatisfiedRows (.list [.element (0 : Element .bls12381)]) (.list []) =
        .ok [] := by
  decide +kernel

end System

end Plonkish
