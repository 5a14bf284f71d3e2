import Plonkish.Proofs.Run.Calls
import Plonkish.Proofs.System.PartOf

/-!
# Building only appends

Along a run rows, bindings and values are never changed or removed, so no constraint is
ever lost: whatever is accepted at the end of a run was accepted, as far as it had come,
at every moment before.
-/

namespace Plonkish

variable {F : BaseField}

namespace System

variable {system : System F}

theorem WellFormed.partOf_run (hsystem : system.WellFormed) (operation : Operation) :
    system.PartOf (operation.run system).2 := by
  rcases Operation.run_cases hsystem operation with ⟨refusal, hrun⟩ | ⟨plan, haccepted, hrun⟩
  · rw [hrun]
    exact .refl system
  · rw [hrun]
    exact Change.partOf_apply haccepted.legal

theorem WellFormed.partOf_after (hsystem : system.WellFormed) (operations : List Operation) :
    system.PartOf (system.after operations) := by
  induction operations generalizing system with
  | nil => exact .refl system
  | cons operation operations ih =>
      rw [after_cons]
      exact (hsystem.partOf_run operation).trans (ih (hsystem.run operation))

theorem elements_list_take {entries : List Value} {values : List (Element F)}
    (hvalues : Value.toColumn F entries = .ok values) (count : Nat) :
    (Value.list (entries.take count)).elements F = .ok (values.take count) := by
  rw [Value.elements, Value.entries_list, except_bind_ok]
  exact mapM_take_eq_ok hvalues count

/-- Every state of a run is part of every later one, and of whatever is accepted later the
values of its variables and the inputs of its bindings are accepted by it. -/
theorem earlier_part_of_later (quotient : QuotientDomain) (earlier later : List Operation)
    {system final : System F} (hsystem : (empty F quotient).after earlier = system)
    (hfinal : system.after later = final) :
    system.rows <+: final.rows ∧ system.bindings <+: final.bindings ∧
      (final.phase ≠ .proving → system.witness <+: final.witness) ∧
      ∀ given givenInputs, final.matrix.verify given givenInputs = .ok () →
        ∃ values inputs, given.entries = .ok values ∧ givenInputs.entries = .ok inputs ∧
          system.matrix.verify (.list (values.take system.numVars))
            (.list (inputs.take system.bindings.length)) = .ok () := by
  have hwellFormed : system.WellFormed := hsystem ▸ (wellFormed_empty F quotient).after earlier
  subst hfinal
  have hpart := hwellFormed.partOf_after later
  refine ⟨hpart.rows_prefix, hpart.bindings_prefix, hpart.witness_prefix, ?_⟩
  intro given givenInputs hverify
  obtain ⟨witness, inputs, hwitness, hinputs, haccepts⟩ :=
    (verify_eq_ok_iff (hwellFormed.after later)).mp hverify
  obtain ⟨entries, hentries, hwitness⟩ := bind_eq_ok_iff.mp hwitness
  obtain ⟨inputEntries, hinputEntries, hinputs⟩ := bind_eq_ok_iff.mp hinputs
  refine ⟨entries, inputEntries, hentries, hinputEntries, ?_⟩
  rw [verify_elements_iff hwellFormed (elements_list_take hwitness _)
    (elements_list_take hinputs _)]
  exact hpart.accepts_take hwellFormed (hwellFormed.satisfied_of_after haccepts.satisfied) haccepts

/-- What is accepted of a sum was accepted of its terms before the sum was made. -/
theorem earlier_part_of_later_sum :
    ∃ system final : System .goldilocks,
      (empty .goldilocks {}).after [.newVariable (.int 2), .newVariable (.int 3),
        .preparePublicInput (.int 0)] = system ∧
      system.after [.add (.int 0) (.int 1), .preparePublicInput (.int 2), .pad] = final ∧
      final.matrix.verify (.list [.int 2, .int 3, .int 5]) (.list [.int 2, .int 5]) = .ok () ∧
      system.matrix.verify (.list [.int 2, .int 3]) (.list [.int 2]) = .ok () := by
  refine ⟨_, _, rfl, rfl, by decide +kernel, ?_⟩
  obtain ⟨-, -, -, haccepted⟩ := earlier_part_of_later (F := .goldilocks) {}
    [.newVariable (.int 2), .newVariable (.int 3), .preparePublicInput (.int 0)]
    [.add (.int 0) (.int 1), .preparePublicInput (.int 2), .pad] rfl rfl
  obtain ⟨values, inputs, hvalues, hinputs, hverify⟩ := haccepted
    (.list [.int 2, .int 3, .int 5]) (.list [.int 2, .int 5]) (by decide +kernel)
  cases hvalues
  cases hinputs
  exact hverify

end System

end Plonkish
