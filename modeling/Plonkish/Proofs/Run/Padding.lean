import Plonkish.Proofs.Run.Representation

/-!
# Padding is invisible

A prover needs a number of rows that is a power of two.  Padding reaches it without any
effect on what is verified: the new rows ask nothing of a witness and nothing else
changes.  Only a system without variables gains something, a variable that is zero.
-/

namespace Plonkish

variable {F : BaseField}

namespace Operation

/-- Padding is refused only once the witness was taken out.  A system without variables,
whose reserved variable would have to be added, is still being built. -/
theorem run_pad_of_consistent {system : System F} (hsystem : system.Consistent)
    (hphase : system.phase ≠ .proving) : pad.run system = (.ok .done, system.padded) := by
  rw [run_pad]
  simp only [plan, if_neg hphase]
  by_cases hempty : system.numVars = 0 ∧ system.zeroVar?.isNone
  · have hbuilding : system.checkBuilding = .ok () := by
      rw [System.checkBuilding_eq_ok_iff]
      cases hcurrent : system.phase with
      | building => rfl
      | padded => exact absurd hempty.1 (hsystem.padded_numVars hcurrent)
      | proving => exact absurd hcurrent hphase
    rw [if_pos hempty, hbuilding]
    rfl
  · rw [if_neg hempty]
    rfl

/-- Of a system that was built and has variables, padding changes the phase and appends
rows up to the least power of two.  Verification comes to the same end before and after,
whatever it is given, and the residuals only get zeros.  Padding again changes nothing.  A
system without variables gets one variable and one row, which demands that it is zero. -/
theorem pad_invisible (quotient : QuotientDomain) (operations : List Operation)
    {system : System F} (hreached : (System.empty F quotient).after operations = system)
    (hphase : system.phase ≠ .proving) :
    ∃ padded, pad.run system = (.ok .done, padded) ∧ pad.run padded = (.ok .done, padded) ∧
      (system.numVars ≠ 0 →
        IsLeast {bound | (∃ exponent, bound = 2 ^ exponent) ∧ max system.size 1 ≤ bound}
          padded.size ∧
        system.rows <+: padded.rows ∧
        padded = { system with rows := padded.rows, phase := .padded } ∧
        (∀ given givenInputs, padded.matrix.verify given givenInputs =
          system.matrix.verify given givenInputs) ∧
        ∀ given givenInputs witness inputs,
          system.matrix.Supplies given givenInputs witness inputs →
          ∃ residuals, system.matrix.residuals given givenInputs = .ok residuals ∧
            padded.matrix.residuals given givenInputs =
              .ok (residuals ++ List.replicate (padded.size - system.size) 0)) ∧
      (system.numVars = 0 → padded.numVars = 1 ∧ padded.size = 1 ∧
        ∀ given givenInputs, padded.matrix.verify given givenInputs = .ok () ↔
          given.elements F = .ok [0] ∧ givenInputs.elements F = .ok []) := by
  have hsystem : system.Consistent :=
    hreached ▸ (System.consistent_empty F quotient).after operations
  have hwellFormed := hsystem.toWellFormed
  refine ⟨system.padded, run_pad_of_consistent hsystem hphase, ?_, ?_, ?_⟩
  · rw [run_pad_of_consistent (Change.consistent_pad hwellFormed hphase) nofun,
      hwellFormed.padded_padded]
  · intro hnumVars
    have hpadded := System.padded_of_ne_zero hnumVars
    refine ⟨?_, ?_, ?_, hwellFormed.verify_padded hnumVars, ?_⟩
    · rw [System.size_padded, System.inhabited_of_ne_zero hnumVars]
      exact isLeast_nextPowerOfTwo system.size
    · rw [hpadded]
      exact List.prefix_append _ _
    · rw [hpadded]
      simp only [System.grow, List.append_nil, List.length_nil, Nat.add_zero]
    · intro given givenInputs witness inputs hsupplies
      obtain ⟨residuals, hresiduals, _⟩ :=
        ConstraintMatrix.residuals_eq hwellFormed.wellShaped hsupplies
      exact ⟨residuals, hresiduals, hwellFormed.residuals_padded hnumVars hsupplies hresiduals⟩
  · intro hnumVars
    obtain ⟨hcount, hrows, _⟩ := hwellFormed.padded_of_numVars_eq_zero hnumVars
    refine ⟨hcount, ?_, hwellFormed.verify_padded_of_numVars_eq_zero hnumVars hphase⟩
    rw [System.size, hrows, List.length_singleton]

/-- Three rows become four, which makes no difference to the rejection of a wrong sum. -/
theorem pad_invisible_sum :
    ∃ system padded : System .goldilocks,
      (System.empty .goldilocks {}).after [newVariable (.int 2), newVariable (.int 3),
        preparePublicInput (.int 0), add (.int 0) (.int 1), preparePublicInput (.int 2)] = system ∧
      system.phase ≠ .proving ∧ pad.run system = (.ok .done, padded) ∧ padded.size = 4 ∧
      padded.matrix.verify (.list [.int 2, .int 3, .int 6]) (.list [.int 2, .int 6]) =
        .error (.rejected (.unsatisfiedGate 1 [2, 3, 2, 2, 6]
          [1, 1, 0, 0, 0, 0, 0, 0, 0, 0, 0, 0, 1] 18446744069414584320)) := by
  obtain ⟨system, hsystem⟩ : ∃ system : System .goldilocks,
      (System.empty .goldilocks {}).after [newVariable (.int 2), newVariable (.int 3),
        preparePublicInput (.int 0), add (.int 0) (.int 1), preparePublicInput (.int 2)] = system :=
    ⟨_, rfl⟩
  have hphase : system.phase ≠ .proving := by
    rw [← hsystem]
    decide +kernel
  have hnumVars : system.numVars ≠ 0 := by
    rw [← hsystem]
    decide +kernel
  obtain ⟨padded, hpad, -, hsame, -⟩ := pad_invisible {} _ hsystem hphase
  obtain ⟨hsize, -, -, hverify, -⟩ := hsame hnumVars
  refine ⟨system, padded, hsystem, hphase, hpad, ?_, ?_⟩
  · calc padded.size
        = Builder.nextPowerOfTwo system.size := hsize.unique (isLeast_nextPowerOfTwo _)
      _ = 4 := by
        rw [← hsystem]
        decide +kernel
  · rw [hverify, ← hsystem]
    decide +kernel

end Operation

end Plonkish
