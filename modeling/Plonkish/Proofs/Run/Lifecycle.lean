import Plonkish.Proofs.Operation.Frozen
import Plonkish.Proofs.Run.AppendOnly
import Plonkish.Proofs.Run.Padding

/-!
# The life of a system

A system is built, may be padded, and at last its witness is taken out.  Once it is no
longer built nothing is added to it and nothing in it changes, except that its values are
gone when they were taken out.  What was taken out are the values that the variables got
when they were added.
-/

namespace Plonkish

variable {F : BaseField}

/-- What one operation can do to the phase of a system. -/
inductive Phase.Moves : Phase → Phase → Prop
  | stay (phase : Phase) : Moves phase phase
  | pad : Moves .building .padded
  | takeWitness {phase : Phase} (hphase : phase ≠ .proving) : Moves phase .proving

theorem Change.moves_apply {system : System F} {change : Change F}
    (hlegal : change.Legal system) : system.phase.Moves (change.apply system).phase := by
  by_cases hpad : change = pad
  · subst hpad
    change system.phase.Moves .padded
    cases hphase : system.phase with
    | building => exact .pad
    | padded => exact .stay .padded
    | proving => exact absurd hphase hlegal
  by_cases htake : change = takeWitness
  · subst htake
    exact .takeWitness hlegal
  · rw [phase_apply hpad htake]
    exact .stay system.phase

namespace System

variable {system : System F}

theorem WellFormed.moves_run (hsystem : system.WellFormed) (operation : Operation) :
    system.phase.Moves (operation.run system).2.phase := by
  rcases Operation.run_cases hsystem operation with ⟨refusal, hrun⟩ | ⟨plan, haccepted, hrun⟩
  · rw [hrun]
    exact .stay system.phase
  · rw [hrun]
    exact Change.moves_apply haccepted.legal

namespace Consistent

/-- A padded system has the number of rows that padding is to reach. -/
theorem padded_eq (hsystem : system.Consistent) (hphase : system.phase = .padded) :
    system.padded = system := by
  obtain ⟨exponent, hsize⟩ := hsystem.padded_size hphase
  have hrows : system.paddingRows = [] := by
    rw [paddingRows, hsize, nextPowerOfTwo_two_pow, Nat.sub_self, List.replicate_zero]
  rw [padded_of_ne_zero (hsystem.padded_numVars hphase), hrows, grow_nil, ← hphase]

theorem apply_of_frozen (hsystem : system.Consistent) (hphase : system.phase ≠ .building)
    {change : Change F} (hlegal : change.Legal system) (htake : change ≠ .takeWitness) :
    change.apply system = system := by
  by_cases hpad : change = .pad
  · subst hpad
    apply hsystem.padded_eq
    cases hcurrent : system.phase with
    | building => exact absurd hcurrent hphase
    | padded => rfl
    | proving => exact absurd hcurrent hlegal
  · exact Change.apply_eq_self hlegal hphase hpad htake

/-- Once a system is no longer built, only taking out its witness makes a difference. -/
theorem run_of_frozen (hsystem : system.Consistent) (hphase : system.phase ≠ .building)
    (operation : Operation) :
    (operation.run system).2 = system ∨
      operation = .takeWitness ∧ (operation.run system).2 = system.taken := by
  rcases Operation.run_cases hsystem.toWellFormed operation with
    ⟨refusal, hrun⟩ | ⟨plan, haccepted, hrun⟩
  · exact .inl (by rw [hrun])
  · by_cases htake : operation = .takeWitness
    · subst htake
      cases haccepted
      exact .inr ⟨rfl, congrArg Prod.snd hrun⟩
    · rw [hrun]
      exact .inl (hsystem.apply_of_frozen hphase haccepted.legal
        (haccepted.change_ne_takeWitness htake))

theorem run_of_proving (hsystem : system.Consistent) (hphase : system.phase = .proving)
    (operation : Operation) : (operation.run system).2 = system := by
  rcases hsystem.run_of_frozen (by rw [hphase]; nofun) operation with hsame | ⟨-, htaken⟩
  · exact hsame
  · rw [htaken, taken, ← hphase, ← hsystem.cleared hphase]

theorem after_of_proving (hsystem : system.Consistent) (hphase : system.phase = .proving)
    (operations : List Operation) : system.after operations = system := by
  induction operations with
  | nil => rfl
  | cons operation operations ih =>
      rw [after_cons, hsystem.run_of_proving hphase operation, ih]

end Consistent

end System

namespace Operation

variable {system : System F}

theorem run_takeWitness_of_ne (hphase : system.phase ≠ .proving) :
    takeWitness.run system = (.ok (.witness system.witness), system.taken) := by
  rw [run_takeWitness, plan, if_neg hphase]
  rfl

/-- What needs the stored values is refused once they were taken out. -/
theorem refused_of_proving (hsystem : system.WellFormed) (hphase : system.phase = .proving) :
    (∀ index, (witnessValue index).run system = (.error (.tooLate .witnessCleared), system)) ∧
      pad.run system = (.error (.tooLate .paddingClosed), system) ∧
      takeWitness.run system = (.error (.tooLate .alreadyTaken), system) := by
  refine ⟨?_, ?_, ?_⟩
  · intro index
    rw [run_eq_settle hsystem, plan, System.findOperand, if_pos hphase]
    rfl
  · rw [run_pad, plan, if_pos hphase]
    rfl
  · rw [run_takeWitness, plan, if_pos hphase]
    rfl

/-- What could be added to a system is refused as too late by every later one. -/
theorem run_of_adds {late : System F} (hsystem : system.WellFormed) (hlate : late.WellFormed)
    (hphase : late.phase ≠ .building) (hle : system.numVars ≤ late.numVars)
    {operation : Operation} (hadds : operation.Adds) (hok : (operation.run system).1.isOk) :
    ∃ cause, operation.run late = (.error (.tooLate cause), late) := by
  rw [run_eq_settle hsystem] at hok
  rw [run_eq_settle hlate]
  cases hplan : operation.plan system with
  | error refusal =>
      rw [hplan] at hok
      exact absurd hok Bool.false_ne_true
  | ok plan =>
      obtain ⟨cause, hcause⟩ := closes_plan hphase hle hadds plan hplan
      exact ⟨cause, by rw [hcause]; rfl⟩

end Operation

/-- The answer to a request for a reserved variable when nothing can be added. -/
def System.reservedAnswer (system : System F) (constant : Reserved) :
    Except CircuitError (Outcome F) :=
  match system.reserved? constant with
  | some index => .ok (.index index)
  | none => .error (.tooLate (.additionsClosed system.phase))

theorem System.settle_planReserve {system : System F} (hphase : system.phase ≠ .building)
    (constant : Reserved) :
    Plan.settle system (system.planReserve constant) =
      (system.reservedAnswer constant, system) := by
  rw [planReserve, reservedAnswer]
  cases hreserved : system.reserved? constant with
  | none =>
      rw [checkBuilding, Phase.checkBuilding, if_neg hphase]
      rfl
  | some index =>
      change (Except.ok (Outcome.index (system.reservedIndex constant)), system.reserve constant) =
        _
      rw [reservedIndex_of_some hreserved, reserve_of_some hreserved]

/-! ### Values of a run -/

namespace Call

def after (call : Call F) : System F :=
  (call.operation.run call.before).2

/-- A list has the values that the variables had after a call, those the call added among
them, and agrees with what went in and out. -/
structure Recorded (call : Call F) (values : List (Element F)) : Prop where
  stored : ∀ index < call.after.numVars, values[index]? = some (call.after.stored index)
  newVariable : ∀ given index, call.operation = .newVariable given →
    call.outcome = .ok (.index index) →
    ∃ value, given.toElement F = .ok value ∧ values[index]? = some value
  addVariables : ∀ given indices, call.operation = .addVariables given →
    call.outcome = .ok (.indices indices) →
    ∃ added, given.elements F = .ok added ∧ indices.map (values[·]?) = added.map some
  witnessValue : ∀ given value, call.operation = .witnessValue given →
    call.outcome = .ok (.element value) →
    ∃ index, call.before.Names given index ∧ values[index]? = some value

end Call

namespace Call

variable {call : Call F}

theorem accepted_of_outcome (hbefore : call.before.WellFormed)
    (hrun : call.outcome = (call.operation.run call.before).1) {result : Outcome F}
    (hresult : call.outcome = .ok result) :
    ∃ plan, Accepted call.before call.operation plan ∧ result = plan.report call.before ∧
      call.after = plan.change.apply call.before := by
  rcases Operation.run_cases hbefore call.operation with
    ⟨refusal, hrefused⟩ | ⟨plan, haccepted, haccept⟩
  · rw [hrun, hrefused] at hresult
    cases hresult
  · rw [hrun, haccept, Except.ok.injEq] at hresult
    exact ⟨plan, haccepted, hresult.symm, by rw [after, haccept]⟩

/-- A list with the stored values agrees with what went in and out. -/
theorem recorded_of_stored (hbefore : call.before.WellFormed)
    (hrun : call.outcome = (call.operation.run call.before).1)
    (hphase : call.before.phase ≠ .proving) {values : List (Element F)}
    (hstored : ∀ index < call.after.numVars, values[index]? = some (call.after.stored index)) :
    call.Recorded values where
  stored := hstored
  newVariable := by
    intro given index hoperation houtcome
    obtain ⟨plan, haccepted, hreport, hafter⟩ := accepted_of_outcome hbefore hrun houtcome
    rw [hoperation] at haccepted
    cases haccepted with
    | @newVariable _ value _ hvalue =>
        cases hreport
        rw [hafter] at hstored
        refine ⟨value, hvalue, (hstored _ (Nat.lt_succ_self _)).trans (congrArg some ?_)⟩
        exact System.stored_grow_add (hbefore.length_witness hphase) [value] [] 0
  addVariables := by
    intro given indices hoperation houtcome
    obtain ⟨plan, haccepted, hreport, hafter⟩ := accepted_of_outcome hbefore hrun houtcome
    rw [hoperation] at haccepted
    cases haccepted with
    | @addVariables _ added _ hadded =>
        cases hreport
        rw [hafter] at hstored
        refine ⟨added, hadded, ?_⟩
        conv_rhs => rw [← System.map_stored_grow (hbefore.length_witness hphase) added []]
        rw [List.map_map, List.map_inj_left]
        intro index hindex
        exact hstored index (List.mem_range'_1.mp hindex).2
  witnessValue := by
    intro given value hoperation houtcome
    obtain ⟨plan, haccepted, hreport, hafter⟩ := accepted_of_outcome hbefore hrun houtcome
    rw [hoperation] at haccepted
    cases haccepted with
    | @witnessValue _ index hindex =>
        cases hreport
        rw [hafter] at hstored
        exact ⟨index, hindex, hstored index hindex.2⟩

end Call

namespace System.WellFormed

variable {system : System F}

/-- The system after a call of a run is part of the system at the end. -/
theorem partOf_of_mem_calls (hsystem : system.WellFormed) {operations : List Operation}
    {call : Call F} (hcall : call ∈ Operation.calls operations system) :
    call.before.WellFormed ∧ call.outcome = (call.operation.run call.before).1 ∧
      call.after.PartOf (system.after operations) := by
  induction operations generalizing system with
  | nil => cases hcall
  | cons operation operations ih =>
      rw [after_cons]
      rcases List.mem_cons.mp hcall with rfl | hlater
      · exact ⟨hsystem, rfl, (hsystem.run operation).partOf_after operations⟩
      · exact ih (hsystem.run operation) hlater

/-- The values at the end of a run record all of its calls. -/
theorem recorded (hsystem : system.WellFormed) {operations : List Operation}
    (hphase : (system.after operations).phase ≠ .proving) {call : Call F}
    (hcall : call ∈ Operation.calls operations system) :
    call.Recorded (system.after operations).witness := by
  obtain ⟨hbefore, hrun, hpart⟩ := hsystem.partOf_of_mem_calls hcall
  have hafter : call.after.phase ≠ .proving := hphase ∘ hpart.proving
  have hlength := (hbefore.run call.operation).length_witness hafter
  apply Call.recorded_of_stored hbefore hrun (hafter ∘ (hbefore.partOf_run call.operation).proving)
  intro index hindex
  have hlt : index < call.after.witness.length := hlength.symm ▸ hindex
  obtain ⟨added, hadded⟩ := hpart.witness_prefix hphase
  rw [← hadded, List.getElem?_append_left hlt]
  exact getElem?_eq_some_assignment hlt

end System.WellFormed

namespace System

/-- The phase of a system only moves on from building, and what may then still be done
changes nothing but the phase and the values.  What could be added while a system was
built is refused at every later moment, and reserved variables are only there if they were
asked for before.  The witness is taken out at most once; it has for every variable the
value that was stored when the variable was added, and without it the system describes the
same circuit but gives no value any more. -/
theorem lifecycle (quotient : QuotientDomain) (earlier later : List Operation)
    {system final : System F} (hsystem : (empty F quotient).after earlier = system)
    (hfinal : system.after later = final) :
    (∀ operation : Operation, system.phase.Moves (operation.run system).2.phase) ∧
      (final.phase ≠ .building →
        (∀ operation : Operation, (operation.run final).2 = final ∨
          operation = .takeWitness ∧ (operation.run final).2 = final.taken) ∧
        (final.phase = .padded → Operation.pad.run final = (.ok .done, final)) ∧
        (∀ operation : Operation, operation.Adds → (operation.run system).1.isOk →
          ∃ cause, operation.run final = (.error (.tooLate cause), final)) ∧
        Operation.zeroVariable.run final = (final.reservedAnswer .zero, final) ∧
        Operation.oneVariable.run final = (final.reservedAnswer .one, final)) ∧
      (system.phase ≠ .proving → (Operation.takeWitness.run system).1.isOk) ∧
      ∀ values, (Operation.takeWitness.run system).1 = .ok (.witness values) →
        values.length = system.numVars ∧
        (∀ call ∈ Operation.calls earlier (empty F quotient), call.Recorded values) ∧
        ∀ proving, (Operation.takeWitness.run system).2.after later = proving →
          (∀ index, (Operation.witnessValue index).run proving =
            (.error (.tooLate .witnessCleared), proving)) ∧
          Operation.pad.run proving = (.error (.tooLate .paddingClosed), proving) ∧
          Operation.takeWitness.run proving = (.error (.tooLate .alreadyTaken), proving) ∧
          proving.matrix.shape = system.matrix.shape := by
  have hconsistent : system.Consistent := hsystem ▸ (consistent_empty F quotient).after earlier
  have hlater : final.Consistent := hfinal ▸ hconsistent.after later
  have hwellFormed := hconsistent.toWellFormed
  refine ⟨hwellFormed.moves_run, ?_, ?_, ?_⟩
  · intro hphase
    refine ⟨hlater.run_of_frozen hphase, ?_, ?_, ?_, ?_⟩
    · intro hpadded
      rw [Operation.run_pad_of_consistent hlater (by rw [hpadded]; nofun),
        hlater.padded_eq hpadded]
    · intro operation hadds hok
      have hle : system.numVars ≤ final.numVars :=
        hfinal ▸ hwellFormed.numVars_le_after later
      exact Operation.run_of_adds hwellFormed hlater.toWellFormed hphase hle hadds hok
    · exact Operation.run_zeroVariable.trans (settle_planReserve hphase .zero)
    · exact Operation.run_oneVariable.trans (settle_planReserve hphase .one)
  · intro hphase
    rw [Operation.run_takeWitness_of_ne hphase]
    rfl
  · intro values hvalues
    have hphase : system.phase ≠ .proving := by
      intro hproving
      rw [(Operation.refused_of_proving hwellFormed hproving).2.2] at hvalues
      cases hvalues
    rw [Operation.run_takeWitness_of_ne hphase] at hvalues ⊢
    cases hvalues
    refine ⟨hwellFormed.length_witness hphase, ?_, ?_⟩
    · intro call hcall
      have hrecorded := (wellFormed_empty F quotient).recorded (hsystem.symm ▸ hphase) hcall
      rwa [hsystem] at hrecorded
    · intro proving hproving
      have htaken : system.taken.Consistent := Change.consistent_takeWitness hconsistent
      rw [htaken.after_of_proving rfl later] at hproving
      subst hproving
      obtain ⟨hread, hpad, htake⟩ := Operation.refused_of_proving htaken.toWellFormed rfl
      exact ⟨hread, hpad, htake, rfl⟩

/-- A sum is refused after padding, and the values taken out are the two that went in. -/
theorem lifecycle_sum :
    ∃ system final : System .goldilocks,
      (empty .goldilocks {}).after [.newVariable (.int 2), .newVariable (.int 3)] = system ∧
        system.after [.pad] = final ∧
        ((Operation.add (.int 0) (.int 1)).run system).1 = .ok (.index 2) ∧
        (∃ cause, (Operation.add (.int 0) (.int 1)).run final =
          (.error (.tooLate cause), final)) ∧
        ∃ values, (Operation.takeWitness.run system).1 = .ok (.witness values) ∧
          values.length = 2 ∧ values[1]? = some 3 := by
  obtain ⟨system, hsystem⟩ : ∃ system : System .goldilocks,
      (empty .goldilocks {}).after [.newVariable (.int 2), .newVariable (.int 3)] = system :=
    ⟨_, rfl⟩
  obtain ⟨-, hfrozen, -, htaken⟩ := lifecycle {} _ [.pad] hsystem rfl
  have hphase : (system.after [.pad]).phase ≠ .building := by
    rw [← hsystem]
    decide +kernel
  have hsum : ((Operation.add (.int 0) (.int 1)).run system).1 = .ok (.index 2) := by
    rw [← hsystem]
    decide +kernel
  have hvalues : (Operation.takeWitness.run system).1 = .ok (.witness system.witness) := by
    rw [Operation.run_takeWitness_of_ne (by rw [← hsystem]; decide +kernel)]
  obtain ⟨hlength, hrecorded, -⟩ := htaken _ hvalues
  have hlast := Operation.mem_calls_append [.newVariable (.int 2)] (.newVariable (.int 3)) []
    (empty .goldilocks {})
  obtain ⟨value, hvalue, hentry⟩ := (hrecorded _ hlast).newVariable _ 1 rfl (by decide +kernel)
  cases hvalue
  refine ⟨system, _, hsystem, rfl, hsum, ?_, _, hvalues, ?_, hentry⟩
  · exact (hfrozen hphase).2.2.1 _ trivial (by rw [hsum]; rfl)
  · rw [hlength, ← hsystem]
    decide +kernel

end System

end Plonkish
