import Plonkish.Proofs.Operation.Accepted

/-!
# Operations that come too late

No operation asks for the phase of the system first: some look at their arguments
before, and gadgets read the values of their operands.  Still, what could be added to a
system while it was built is refused as too late at every later moment, since none of
the questions on the way there has another answer by then.
-/

namespace Plonkish

variable {F : BaseField} {α β γ : Type}

/-- Where one answer is given, the other is refused as too late. -/
def Closes (answer : Except CircuitError α) (late : Except CircuitError β) : Prop :=
  ∀ result, answer = .ok result → ∃ cause, late = .error (.tooLate cause)

namespace Closes

theorem of_error (refusal : CircuitError) (late : Except CircuitError β) :
    Closes (.error refusal : Except CircuitError α) late :=
  nofun

/-- A question that is not about the system has the same answer at both times. -/
theorem bind {first : Except CircuitError γ} {next : γ → Except CircuitError α}
    {lateNext : γ → Except CircuitError β} (hnext : ∀ value, Closes (next value) (lateNext value)) :
    Closes (first >>= next) (first >>= lateNext) := by
  intro result hresult
  obtain ⟨value, hfirst, hresult⟩ := bind_eq_ok_iff.mp hresult
  rw [hfirst, except_bind_ok]
  exact hnext value result hresult

variable {system late : System F}

/-- The question for the building phase is the last one. -/
theorem checkBuilding (hphase : late.phase ≠ .building) (answer : Except CircuitError α)
    (lateNext : Unit → Except CircuitError β) :
    Closes answer (late.checkBuilding >>= lateNext) := by
  intro result _
  rw [System.checkBuilding, Phase.checkBuilding, if_neg hphase]
  exact ⟨_, rfl⟩

/-- An operand that was found is found again, unless the values are gone. -/
theorem findOperand (hle : system.numVars ≤ late.numVars) (index : Value)
    {next : Nat → Except CircuitError α} {lateNext : Nat → Except CircuitError β}
    (hnext : ∀ found, Closes (next found) (lateNext found)) :
    Closes (system.findOperand index >>= next) (late.findOperand index >>= lateNext) := by
  intro result hresult
  obtain ⟨found, hfound, hresult⟩ := bind_eq_ok_iff.mp hresult
  by_cases hproving : late.phase = .proving
  · rw [System.findOperand, if_pos hproving]
    exact ⟨_, rfl⟩
  · obtain ⟨_, hindex, hlt⟩ := System.findOperand_eq_ok_iff_names.mp hfound
    have hlate : late.findOperand index = .ok found :=
      System.findOperand_eq_ok_iff_names.mpr ⟨hproving, hindex, hlt.trans_le hle⟩
    rw [hlate, except_bind_ok]
    exact hnext found result hresult

theorem planBinary (hphase : late.phase ≠ .building) (hle : system.numVars ≤ late.numVars)
    (combined : Nat → Nat → Plan F) (left right : Value) :
    Closes (system.planBinary combined left right) (late.planBinary combined left right) := by
  apply findOperand hle
  intro _
  apply findOperand hle
  intro _
  exact checkBuilding hphase _ _

end Closes

namespace Operation

/-- The operation is to add something: it is an allocation, an insertion or a gadget, and
not one of those that may give a variable that is there already. -/
def Adds : Operation → Prop
  | witnessValue _ | zeroVariable | oneVariable | pad | takeWitness => False
  | _ => True

/-- What could be added to a system is refused once a later system is no longer built. -/
theorem closes_plan {system late : System F} (hphase : late.phase ≠ .building)
    (hle : system.numVars ≤ late.numVars) {operation : Operation} (hadds : operation.Adds) :
    Closes (operation.plan system) (operation.plan late) := by
  cases operation with
  | witnessValue | zeroVariable | oneVariable | pad | takeWitness => exact hadds.elim
  | newVariable | addVariables | insertAddGate | insertSubGate | insertMulGate
  | insertBooleanGate | preparePublicInput => exact .checkBuilding hphase _ _
  | insertConstantGate index constant =>
      apply Closes.bind
      intro _
      exact .checkBuilding hphase _ _
  | insertGate wires selectors =>
      apply Closes.bind
      intro entries
      cases Selectors.ofList? entries with
      | none => exact .of_error _ _
      | some sels =>
          apply Closes.bind
          intro _
          exact .checkBuilding hphase _ _
  | insertLinearGate inputs output q1 q2 q3 q4 =>
      apply Closes.bind
      intro entries
      rcases entries with _ | ⟨w1, _ | ⟨w2, _ | ⟨w3, _ | ⟨w4, _ | ⟨w5, rest⟩⟩⟩⟩⟩
      case cons.cons.cons.cons.nil =>
          iterate 4
            apply Closes.bind
            intro _
          exact .checkBuilding hphase _ _
      all_goals exact .of_error _ _
  | linearCombine inputs q1 q2 q3 q4 =>
      apply Closes.bind
      intro entries
      rcases entries with _ | ⟨w1, _ | ⟨w2, _ | ⟨w3, _ | ⟨w4, _ | ⟨w5, rest⟩⟩⟩⟩⟩
      case cons.cons.cons.cons.nil =>
          iterate 4
            apply Closes.bind
            intro _
          iterate 4
            apply Closes.findOperand hle
            intro _
          exact .checkBuilding hphase _ _
      all_goals exact .of_error _ _
  | add | sub | mul | equal | isEqual | isNotEqual | isEqualOrNotEqual =>
      exact .planBinary hphase hle _ _ _
  | select var0 var1 bit =>
      iterate 3
        apply Closes.findOperand hle
        intro _
      exact .checkBuilding hphase _ _
  | rangeCheck index count =>
      apply Closes.bind
      intro tooFew
      cases tooFew with
      | true => exact .of_error _ _
      | false =>
          apply Closes.findOperand hle
          intro _
          iterate 2
            apply Closes.bind
            intro _
          exact .checkBuilding hphase _ _

end Operation

end Plonkish
