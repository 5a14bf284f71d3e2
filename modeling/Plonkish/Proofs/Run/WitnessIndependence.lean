import Plonkish.Proofs.Operation.SameCircuit
import Plonkish.Proofs.Run.Calls

/-!
# The circuit does not depend on the witness

Two runs of the same operations that only differ in the values they put in go through
the same circuits, report the same indices and are refused for the same reasons.  Once
the witnesses are taken out the two systems are equal.
-/

namespace Plonkish

variable {F : BaseField}

/-- The operations are the same but for the values of new variables, which are as
many and elements in both. -/
inductive Operation.SameShape (F : BaseField) : Operation → Operation → Prop
  | same (operation : Operation) : SameShape F operation operation
  | newVariable {left right : Value} {leftElement rightElement : Element F}
      (hleft : left.toElement F = .ok leftElement)
      (hright : right.toElement F = .ok rightElement) :
      SameShape F (.newVariable left) (.newVariable right)
  | addVariables {left right : Value} {leftElements rightElements : List (Element F)}
      (hleft : left.elements F = .ok leftElements)
      (hright : right.elements F = .ok rightElements)
      (hlength : leftElements.length = rightElements.length) :
      SameShape F (.addVariables left) (.addVariables right)

/-- The outcomes are the same, or both are values of variables. -/
def Outcome.SameHandle : Outcome F → Outcome F → Prop
  | element _, element _ => True
  | witness left, witness right => left.length = right.length
  | left, right => left = right

/-- Both operations are refused for the same reason, or neither is and the outcomes
are the same up to values. -/
def SameAnswer : Except CircuitError (Outcome F) → Except CircuitError (Outcome F) → Prop
  | .ok left, .ok right => left.SameHandle right
  | .error left, .error right => left = right
  | _, _ => False

theorem Outcome.sameHandle_refl (outcome : Outcome F) : outcome.SameHandle outcome := by
  cases outcome <;> trivial

namespace System.SameCircuit

variable {left right : System F}

/-- Reports about equal circuits are the same up to values. -/
theorem report (hsame : left.SameCircuit right) (hleft : left.WellFormed)
    (hright : right.WellFormed) {operation : Operation} {plan : Plan F}
    (haccepted : Accepted left operation plan) :
    (plan.report left).SameHandle (plan.report right) := by
  cases haccepted with
  | newVariable | addVariables | linearCombine | add | sub | mul | select | rangeCheck =>
      simp only [Plan.define, hsame.numVars_eq]
      exact Outcome.sameHandle_refl _
  | witnessValue | pad | equal | insertBooleanGate => trivial
  | zeroVariable | oneVariable =>
      simp only [hsame.reservedIndex_eq]
      exact Outcome.sameHandle_refl _
  | insertGate | insertLinearGate | insertAddGate | insertSubGate | insertMulGate
  | insertConstantGate | preparePublicInput =>
      simp only [Plan.addRow, hsame.size_eq]
      exact Outcome.sameHandle_refl _
  | takeWitness hphase =>
      have hlength := hleft.length_witness hphase
      have hlength' := hright.length_witness (hsame.phase_eq ▸ hphase)
      calc left.witness.length
          = left.numVars := hlength
        _ = right.numVars := hsame.numVars_eq
        _ = right.witness.length := hlength'.symm
  | isEqual | isNotEqual | isEqualOrNotEqual =>
      simp only [Plan.flags, hsame.equalFlag_eq, hsame.numVars_eq]
      exact Outcome.sameHandle_refl _

theorem run_same (hsame : left.SameCircuit right) (hleft : left.WellFormed)
    (hright : right.WellFormed) (operation : Operation) :
    SameAnswer (operation.run left).1 (operation.run right).1 ∧
      (operation.run left).2.SameCircuit (operation.run right).2 := by
  rw [Operation.run_eq_settle hleft, Operation.run_eq_settle hright, ← hsame.plan_eq]
  cases hplan : operation.plan left with
  | error refusal => exact ⟨rfl, hsame⟩
  | ok plan =>
      exact ⟨hsame.report hleft hright (accepted_of_plan hplan), hsame.apply plan.change⟩

/-- New variables are added or refused alike, whatever their values. -/
theorem settle_inputs (hsame : left.SameCircuit right) {values values' : List (Element F)}
    (hlength : values.length = values'.length) {report report' : System F → Outcome F}
    (hreport : (report left).SameHandle (report' right)) :
    SameAnswer
        (Plan.settle left (left.checkBuilding >>= fun _ => .ok ⟨.inputs values, report⟩)).1
        (Plan.settle right (right.checkBuilding >>= fun _ => .ok ⟨.inputs values', report'⟩)).1 ∧
      (Plan.settle left
        (left.checkBuilding >>= fun _ => .ok ⟨.inputs values, report⟩)).2.SameCircuit
        (Plan.settle right (right.checkBuilding >>= fun _ => .ok ⟨.inputs values', report'⟩)).2 := by
  have hbuilding : left.checkBuilding = right.checkBuilding := by
    rw [System.checkBuilding, System.checkBuilding, hsame.phase_eq]
  rw [hbuilding]
  cases right.checkBuilding with
  | error refusal => exact ⟨rfl, hsame⟩
  | ok granted => exact ⟨hreport, hsame.grow hlength []⟩

theorem run_sameShape (hsame : left.SameCircuit right) (hleft : left.WellFormed)
    (hright : right.WellFormed) {operation operation' : Operation}
    (hshape : Operation.SameShape F operation operation') :
    SameAnswer (operation.run left).1 (operation'.run right).1 ∧
      (operation.run left).2.SameCircuit (operation'.run right).2 := by
  cases hshape with
  | same => exact hsame.run_same hleft hright operation
  | newVariable hvalue hvalue' =>
      rw [Operation.run_newVariable, Operation.run_newVariable, Operation.plan, Operation.plan,
        hvalue, hvalue']
      refine hsame.settle_inputs (by rfl) ?_
      simp only [hsame.numVars_eq]
      exact Outcome.sameHandle_refl _
  | addVariables hvalues hvalues' hlength =>
      rw [Operation.run_addVariables, Operation.run_addVariables, Operation.plan, Operation.plan,
        hvalues, hvalues']
      refine hsame.settle_inputs hlength ?_
      simp only [hsame.numVars_eq, hlength]
      exact Outcome.sameHandle_refl _

/-- The answers along two runs of the same shape are the same up to values, and so are
the systems. -/
theorem runAll_sameShape (hsame : left.SameCircuit right) (hleft : left.WellFormed)
    (hright : right.WellFormed) {operations operations' : List Operation}
    (hshape : List.Forall₂ (Operation.SameShape F) operations operations') :
    List.Forall₂ SameAnswer (Operation.runAll operations left).1
        (Operation.runAll operations' right).1 ∧
      (left.after operations).SameCircuit (right.after operations') := by
  induction hshape generalizing left right with
  | nil => exact ⟨.nil, hsame⟩
  | cons hfirst _ ih =>
      obtain ⟨hanswer, hnext⟩ := hsame.run_sameShape hleft hright hfirst
      obtain ⟨hanswers, hlast⟩ := ih hnext (hleft.run _) (hright.run _)
      exact ⟨.cons hanswer hanswers, hlast⟩

/-- Taking the witness out makes the systems equal. -/
theorem takeWitness_eq (hsame : left.SameCircuit right)
    (hleft : left.phase = .proving → left.witness = [])
    (hright : right.phase = .proving → right.witness = []) :
    (Operation.takeWitness.run left).2 = (Operation.takeWitness.run right).2 := by
  rw [Operation.run_takeWitness, Operation.run_takeWitness, ← hsame.plan_eq, Operation.plan]
  by_cases hphase : left.phase = .proving
  · have hwitness : left.witness = right.witness := by
      rw [hleft hphase, hright (hsame.phase_eq ▸ hphase)]
    rw [if_pos hphase]
    calc left
        = { left with witness := right.witness } :=
          congrArg (fun values => { left with witness := values }) hwitness
      _ = right := hsame.eq_with_witness.symm
  · rw [if_neg hphase]
    exact hsame.taken_eq

end System.SameCircuit

namespace System

variable {system : System F}

theorem cleared_run (hsystem : system.WellFormed)
    (hcleared : system.phase = .proving → system.witness = []) (operation : Operation) :
    (operation.run system).2.phase = .proving → (operation.run system).2.witness = [] := by
  rcases Operation.run_cases hsystem operation with ⟨refusal, hrun⟩ | ⟨plan, haccepted, hrun⟩
  · rwa [hrun]
  · rw [hrun]
    exact Change.cleared_apply haccepted.legal hcleared

theorem cleared_after (hsystem : system.WellFormed)
    (hcleared : system.phase = .proving → system.witness = []) (operations : List Operation) :
    (system.after operations).phase = .proving → (system.after operations).witness = [] := by
  induction operations generalizing system with
  | nil => exact hcleared
  | cons operation operations ih =>
      rw [after_cons]
      exact ih (hsystem.run operation) (cleared_run hsystem hcleared operation)

end System

namespace Operation

/-- Two runs that differ in the values of new variables only give the same answers,
go through the same circuits and, whenever the witness is taken out, leave the same
system. -/
theorem circuit_independent_of_values (quotient : QuotientDomain)
    {operations operations' : List Operation}
    (hshape : List.Forall₂ (SameShape F) operations operations') :
    List.Forall₂ SameAnswer (runAll operations (System.empty F quotient)).1
        (runAll operations' (System.empty F quotient)).1 ∧
      ∀ count,
        ((System.empty F quotient).after (operations.take count)).SameCircuit
            ((System.empty F quotient).after (operations'.take count)) ∧
          (takeWitness.run ((System.empty F quotient).after (operations.take count))).2 =
            (takeWitness.run ((System.empty F quotient).after (operations'.take count))).2 := by
  have hempty := System.wellFormed_empty F quotient
  have hrefl := System.SameCircuit.refl (System.empty F quotient)
  refine ⟨(hrefl.runAll_sameShape hempty hempty hshape).1, fun count => ?_⟩
  have hcircuits := (hrefl.runAll_sameShape hempty hempty (List.forall₂_take count hshape)).2
  exact ⟨hcircuits, hcircuits.takeWitness_eq (System.cleared_after hempty nofun _)
    (System.cleared_after hempty nofun _)⟩

/-- Whether the two variables of a comparison are equal does not show. -/
theorem circuit_independent_of_values_comparison :
    List.Forall₂ (SameShape .goldilocks)
        [newVariable (.int 3), newVariable (.int 3), isEqual (.int 0) (.int 1)]
        [newVariable (.int 3), newVariable (.int 4), isEqual (.int 0) (.int 1)] ∧
      (takeWitness.run ((System.empty .goldilocks {}).after
        [newVariable (.int 3), newVariable (.int 3), isEqual (.int 0) (.int 1)])).2 =
        (takeWitness.run ((System.empty .goldilocks {}).after
          [newVariable (.int 3), newVariable (.int 4), isEqual (.int 0) (.int 1)])).2 := by
  have hshape : List.Forall₂ (SameShape .goldilocks)
      [newVariable (.int 3), newVariable (.int 3), isEqual (.int 0) (.int 1)]
      [newVariable (.int 3), newVariable (.int 4), isEqual (.int 0) (.int 1)] :=
    .cons (.same _) (.cons (.newVariable rfl rfl) (.cons (.same _) .nil))
  exact ⟨hshape, ((circuit_independent_of_values {} hshape).2 3).2⟩

end Operation

end Plonkish
