import Plonkish.Proofs.Run.Simulation

/-!
# Refused operations change nothing

An operation that is refused leaves the system as it was.  For operations that check all
their arguments before they change anything this is plain.  It holds as well of operations
made of calls that check and change in turn, gadgets included: no column of a state that they
reach is left longer or shorter by a refusal.
-/

namespace Plonkish

variable {F : BaseField}

namespace Operation

/-- A refused operation leaves the system as it was, and so it does where the system is
stored column by column and the operation is made of calls that check and change in turn. -/
theorem refused_leaves_system (quotient : QuotientDomain) (operations : List Operation)
    {system : System F} (hreached : (System.empty F quotient).after operations = system)
    (operation : Operation) :
    (∀ refusal, (operation.run system).1 = .error refusal →
      (operation.run system).2 = system) ∧
    (Columns.empty F quotient).after operations = system.columns ∧
    operation.runStepwise system.columns =
      ((operation.run system).1, (operation.run system).2.columns) ∧
    ∀ refusal, (operation.runStepwise system.columns).1 = .error refusal →
      (operation.runStepwise system.columns).2 = system.columns := by
  have hsystem : system.WellFormed :=
    hreached ▸ (System.wellFormed_empty F quotient).after operations
  have hstepwise := runStepwise_columns hsystem operation
  have hunchanged : ∀ refusal, (operation.run system).1 = .error refusal →
      (operation.run system).2 = system := by
    intro refusal hrefusal
    rcases run_cases hsystem operation with ⟨_, hrun⟩ | ⟨plan, _, hrun⟩
    · rw [hrun]
    · rw [hrun] at hrefusal
      cases hrefusal
  refine ⟨hunchanged, hreached ▸ Columns.after_empty quotient operations, hstepwise, ?_⟩
  intro refusal hrefusal
  rw [hstepwise] at hrefusal ⊢
  exact congrArg System.columns (hunchanged refusal hrefusal)

/-- The variable for zero is there, so only the row of the equation is too late. -/
theorem refused_leaves_system_equal :
    ∃ system : System .goldilocks,
      (System.empty .goldilocks {}).after [newVariable (.int 2), newVariable (.int 2),
        zeroVariable, pad] = system ∧
      (equal (.int 0) (.int 1)).runStepwise system.columns =
        (.error (.tooLate (.additionsClosed .padded)), system.columns) := by
  refine ⟨_, rfl, ?_⟩
  obtain ⟨-, -, -, hunchanged⟩ := refused_leaves_system (F := .goldilocks) {}
    [newVariable (.int 2), newVariable (.int 2), zeroVariable, pad] rfl (equal (.int 0) (.int 1))
  have hrefused : ((equal (.int 0) (.int 1)).runStepwise ((System.empty .goldilocks {}).after
      [newVariable (.int 2), newVariable (.int 2), zeroVariable, pad]).columns).1 =
        .error (.tooLate (.additionsClosed .padded)) := by
    decide +kernel
  exact Prod.ext hrefused (hunchanged _ hrefused)

/-- Where a reserved variable is not there, flags are refused after two rows were added. -/
example :
    let columns : Columns .goldilocks := { numVars := 1, witness := [5], oneVar? := some 7 }
    let (outcome, refused) := (isEqual (.int 0) (.int 0)).runStepwise columns
    outcome = .error (.index (.variableOutOfBound .operand "7" 4)) ∧
      refused.wiring = [[0, 1], [0, 2], [0, 0], [0, 0], [1, 3]] ∧ refused.size = 2 := by
  decide +kernel

end Operation

end Plonkish
