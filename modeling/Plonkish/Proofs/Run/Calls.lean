import Plonkish.Proofs.Operation.Accepted

/-!
# Calls of a run

A run is followed call by call: each `Call` keeps the system that the operation met
and what came of it.  Every system that a run from the empty system reaches is well
formed, and what a witness has to satisfy only grows along a run.
-/

namespace Plonkish

variable {F : BaseField}

/-- An operation of a run with the system before it and its outcome. -/
structure Call (F : BaseField) where
  operation : Operation
  before : System F
  outcome : Except CircuitError (Outcome F)

namespace Call

def Succeeded (call : Call F) : Prop :=
  call.outcome.isOk

instance (call : Call F) : Decidable call.Succeeded :=
  inferInstanceAs (Decidable (_ = _))

end Call

namespace Operation

/-- The calls of a run. -/
def calls : List Operation → System F → List (Call F)
  | [], _ => []
  | operation :: operations, system =>
    ⟨operation, system, (operation.run system).1⟩ ::
      calls operations (operation.run system).2

theorem map_outcome_calls (operations : List Operation) (system : System F) :
    (calls operations system).map (·.outcome) = (runAll operations system).1 := by
  induction operations generalizing system with
  | nil => rfl
  | cons operation operations ih =>
      rw [calls, List.map_cons, ih]
      rfl

/-- An operation of a run meets the system that the operations before it leave. -/
theorem mem_calls_append (earlier : List Operation) (operation : Operation)
    (later : List Operation) (system : System F) :
    ⟨operation, system.after earlier, (operation.run (system.after earlier)).1⟩ ∈
      calls (earlier ++ operation :: later) system := by
  induction earlier generalizing system with
  | nil => exact List.mem_cons_self
  | cons first earlier ih => exact List.mem_cons_of_mem _ (ih (first.run system).2)

/-- An operation is refused and leaves the system as it was, or is accepted and does
what its plan says. -/
theorem run_cases {system : System F} (hsystem : system.WellFormed) (operation : Operation) :
    (∃ refusal, operation.run system = (.error refusal, system)) ∨
      ∃ plan, Accepted system operation plan ∧
        operation.run system = (.ok (plan.report system), plan.change.apply system) := by
  rw [run_eq_settle hsystem]
  cases hplan : operation.plan system with
  | error refusal => exact Or.inl ⟨refusal, rfl⟩
  | ok plan => exact Or.inr ⟨plan, accepted_of_plan hplan, rfl⟩

end Operation

namespace System

theorem after_cons (system : System F) (operation : Operation) (operations : List Operation) :
    system.after (operation :: operations) = (operation.run system).2.after operations := rfl

theorem wellFormed_empty (F : BaseField) (quotient : QuotientDomain) :
    (empty F quotient).WellFormed where
  wires_lt := by simp [empty]
  bindings_sorted := List.Pairwise.nil
  bound_row := by simp [empty]
  reserved_gate := by
    intro constant index hreserved
    cases constant <;> cases hreserved
  length_witness _ := rfl
  stored_reserved := by
    intro _ constant index hreserved
    cases constant <;> cases hreserved

namespace WellFormed

variable {system : System F}

theorem run (hsystem : system.WellFormed) (operation : Operation) :
    (operation.run system).2.WellFormed := by
  rcases Operation.run_cases hsystem operation with ⟨refusal, hrun⟩ | ⟨plan, haccepted, hrun⟩
  · rw [hrun]
    exact hsystem
  · rw [hrun]
    exact Change.wellFormed_apply hsystem haccepted.legal

theorem after (hsystem : system.WellFormed) (operations : List Operation) :
    (system.after operations).WellFormed := by
  induction operations generalizing system with
  | nil => exact hsystem
  | cons operation operations ih =>
      rw [after_cons]
      exact ih (hsystem.run operation)

theorem satisfied_of_run (hsystem : system.WellFormed) {operation : Operation}
    {assigned : Nat → Element F} (hsatisfied : (operation.run system).2.Satisfied assigned) :
    system.Satisfied assigned := by
  rcases Operation.run_cases hsystem operation with ⟨refusal, hrun⟩ | ⟨plan, haccepted, hrun⟩
  · rwa [hrun] at hsatisfied
  · rw [hrun] at hsatisfied
    exact ((Change.satisfied_apply hsystem haccepted.legal assigned).mp hsatisfied).1

/-- What satisfies a system satisfied it all along. -/
theorem satisfied_of_after (hsystem : system.WellFormed) {operations : List Operation}
    {assigned : Nat → Element F} (hsatisfied : (system.after operations).Satisfied assigned) :
    system.Satisfied assigned := by
  induction operations generalizing system with
  | nil => exact hsatisfied
  | cons operation operations ih =>
      rw [after_cons] at hsatisfied
      exact hsystem.satisfied_of_run (ih (hsystem.run operation) hsatisfied)

theorem numVars_le_run (hsystem : system.WellFormed) (operation : Operation) :
    system.numVars ≤ (operation.run system).2.numVars := by
  rcases Operation.run_cases hsystem operation with ⟨refusal, hrun⟩ | ⟨plan, haccepted, hrun⟩
  · rw [hrun]
  · rw [hrun]
    exact Change.numVars_le_apply system plan.change

theorem numVars_le_after (hsystem : system.WellFormed) (operations : List Operation) :
    system.numVars ≤ (system.after operations).numVars := by
  induction operations generalizing system with
  | nil => exact Nat.le_refl _
  | cons operation operations ih =>
      rw [after_cons]
      exact (hsystem.numVars_le_run operation).trans (ih (hsystem.run operation))

/-- Whatever follows in a run, the variables that a call added stay, and what it
forces is forced at the end. -/
theorem accepted_of_mem_calls (hsystem : system.WellFormed) {operations : List Operation}
    {call : Call F} (hcall : call ∈ Operation.calls operations system)
    (hsucceeded : call.Succeeded) :
    ∃ plan, Accepted call.before call.operation plan ∧
      call.outcome = .ok (plan.report call.before) ∧
      (plan.change.apply call.before).numVars ≤ (system.after operations).numVars ∧
      ∀ assigned, (system.after operations).Satisfied assigned →
        plan.change.Forces call.before assigned := by
  induction operations generalizing system with
  | nil => cases hcall
  | cons operation operations ih =>
      have hafter := hsystem.run operation
      rw [after_cons]
      rcases List.mem_cons.mp hcall with rfl | hlater
      · rcases Operation.run_cases hsystem operation with
          ⟨refusal, hrun⟩ | ⟨plan, haccepted, hrun⟩
        · rw [Call.Succeeded, hrun] at hsucceeded
          exact absurd hsucceeded Bool.false_ne_true
        · rw [hrun] at hafter ⊢
          refine ⟨plan, haccepted, rfl, hafter.numVars_le_after operations, ?_⟩
          intro assigned hsatisfied
          have happlied := hafter.satisfied_of_after hsatisfied
          exact ((Change.satisfied_apply hsystem haccepted.legal assigned).mp happlied).2
      · exact ih hafter hlater

end WellFormed

end System

end Plonkish
