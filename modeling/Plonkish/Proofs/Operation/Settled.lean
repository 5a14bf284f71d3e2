import Plonkish.Proofs.Operation.Plan

/-!
# Operations carry out their plans

An operation is written as a program of the builder: checks, reads and one change at
its end.  Each of these steps is one step of its plan, so running the operation gives
the refusal of the plan and leaves the system as it was, or makes the change of the
plan and reports its outcome.
-/

namespace Plonkish

variable {F : BaseField}

/-! ### Steps of a program -/

namespace Checked

variable {σ α β : Type}

theorem run_bind_ok {first : Checked σ α} {next : α → Checked σ β} {before after : σ} {found : α}
    (hfirst : first.run.run before = (.ok found, after)) :
    (first >>= next).run.run before = (next found).run.run after := by
  rw [ExceptT.run_bind, StateT.run_bind, hfirst]
  rfl

theorem run_bind_error {first : Checked σ α} {next : α → Checked σ β} {before after : σ}
    {refusal : CircuitError} (hfirst : first.run.run before = (.error refusal, after)) :
    (first >>= next).run.run before = (.error refusal, after) := by
  rw [ExceptT.run_bind, StateT.run_bind, hfirst]
  rfl

theorem run_get (state : σ) : (get : Checked σ σ).run.run state = (.ok state, state) := rfl

theorem ofExcept_pure (value : α) : (ofExcept (pure value) : Checked σ α) = pure value := rfl

theorem ofExcept_bind (first : Except CircuitError α) (next : α → Except CircuitError β) :
    (ofExcept (first >>= next) : Checked σ β) = ofExcept first >>= fun found =>
      ofExcept (next found) := by
  cases first with
  | error refusal => rfl
  | ok found => rfl

theorem mapM_element (sels : Selectors Value) :
    sels.mapM element = (ofExcept (sels.mapM (Value.toElement F)) : Checked σ _) := by
  simp only [Selectors.mapM, ofExcept_bind, ofExcept_pure]
  rfl

theorem run_element {given : Value} {found : Element F} (hgiven : given.toElement F = .ok found)
    (state : σ) : (element given).run.run state = (.ok found, state) :=
  congrArg (·, state) hgiven

theorem run_entries {given : Value} {found : List Value} (hgiven : given.entries = .ok found)
    (state : σ) : (entries given).run.run state = (.ok found, state) :=
  congrArg (·, state) hgiven

end Checked

/-! ### Steps of a builder -/

namespace Builder

variable {α : Type} {system : System F}

open Checked

/-- A check that leaves the system alone is a check of the plan. -/
theorem settle_bind {check : Builder F α} {answer : Except CircuitError α}
    {next : α → Builder F (Outcome F)} {rest : α → Except CircuitError (Plan F)}
    (hcheck : check.run.run system = (answer, system))
    (hnext : ∀ found, answer = .ok found →
      (next found).run.run system = Plan.settle system (rest found)) :
    (check >>= next).run.run system = Plan.settle system (answer >>= rest) := by
  cases answer with
  | error refusal => exact run_bind_error hcheck
  | ok found => exact (run_bind_ok hcheck).trans (hnext found rfl)

theorem settle_read {index : Value} {next : Variable F → Builder F (Outcome F)}
    {rest : Nat → Except CircuitError (Plan F)}
    (hnext : ∀ found, system.findOperand index = .ok found →
      (next ⟨found, system.stored found⟩).run.run system = Plan.settle system (rest found)) :
    (read index >>= next).run.run system =
      Plan.settle system (system.findOperand index >>= rest) := by
  have hread : (read index : Builder F (Variable F)).run.run system =
      (system.read index, system) := rfl
  rw [System.read] at hread
  rw [System.findOperand] at hnext ⊢
  by_cases hphase : system.phase = .proving
  · rw [if_pos hphase] at hread ⊢
    exact run_bind_error hread
  · rw [if_neg hphase] at hread hnext ⊢
    cases hresolve : system.resolve .operand index with
    | error refusal =>
        rw [hresolve] at hread
        exact run_bind_error hread
    | ok found =>
        rw [hresolve] at hread
        exact (run_bind_ok hread).trans (hnext found hresolve)

theorem run_emit {change : Emit F α} {result : α} {after : System F}
    (hchange : change.run system = (result, after)) :
    (emit change : Builder F α).run.run system = (.ok result, after) := by
  change (Except.ok (change.run system).1, (change.run system).2) = _
  rw [hchange]

/-- The change at the end of an operation is the change of the plan. -/
theorem settle_emit {change : Emit F α} {report : α → Outcome F} {plan : Plan F} {result : α}
    (hchange : change.run system = (result, plan.change.apply system))
    (hreport : report result = plan.report system) :
    (emit change >>= fun result => pure (report result)).run.run system =
      Plan.settle system (.ok plan) := by
  rw [run_bind_ok (run_emit hchange), hreport]
  rfl

end Builder

/-! ### Plans are carried out -/

namespace Operation

variable {system : System F}

open Builder Checked Plan

theorem run_newVariable (value : Value) :
    (newVariable value).run system = settle system ((newVariable value).plan system) := by
  simp only [run, perform, Builder.newVariable, bind_assoc, pure_bind]
  refine settle_bind rfl fun _ _ => settle_bind rfl fun found _ => ?_
  exact settle_emit (Emit.run_addVariable found system) rfl

theorem run_addVariables (values : Value) :
    (addVariables values).run system = settle system ((addVariables values).plan system) := by
  simp only [run, perform, Builder.addVariables, plan, Value.elements, bind_assoc, pure_bind]
  refine settle_bind rfl fun _ _ => settle_bind rfl fun entries _ =>
    settle_bind rfl fun found _ => ?_
  refine settle_emit (Emit.run_addVariables found system) ?_
  rw [Emit.map_index_addedVariables]

theorem run_witnessValue (index : Value) :
    (witnessValue index).run system = settle system ((witnessValue index).plan system) := by
  simp only [run, perform, Builder.witnessValue, bind_assoc, pure_bind]
  exact settle_read fun _ _ => rfl

/-- Only a variable that is still to be added needs the building phase. -/
theorem settle_reserve {change : Emit F (Variable F)} {constant : Reserved}
    (hchange : change.run system =
      (⟨system.reservedIndex constant, constant.value F⟩, system.reserve constant)) :
    ((do
      if (system.reserved? constant).isNone then ensureBuilding
      return (← emit change).index : Builder F Nat) >>= fun index =>
        pure (.index index)).run.run system =
      settle system (system.planReserve constant) := by
  have hemit : (emit change >>= fun found => pure (.index found.index)).run.run system =
      settle system
        (.ok ⟨.reserve constant, fun before => .index (before.reservedIndex constant)⟩) :=
    settle_emit hchange rfl
  rw [System.planReserve]
  by_cases hfresh : (system.reserved? constant).isNone
  · rw [if_pos hfresh, if_pos hfresh]
    simp only [bind_assoc, pure_bind]
    exact settle_bind rfl fun _ _ => hemit
  · rw [if_neg hfresh, if_neg hfresh]
    simp only [bind_assoc, pure_bind]
    exact hemit

theorem run_zeroVariable :
    zeroVariable.run system = settle system (zeroVariable.plan system) := by
  simp only [run, perform, Builder.zeroVariable, bind_assoc]
  exact (run_bind_ok (run_get system)).trans (settle_reserve (Emit.run_reserveZero system))

theorem run_oneVariable :
    oneVariable.run system = settle system (oneVariable.plan system) := by
  simp only [run, perform, Builder.oneVariable, bind_assoc]
  exact (run_bind_ok (run_get system)).trans (settle_reserve (Emit.run_reserveOne system))

theorem settle_addRow (row : Row F) :
    (emit (.addRow row) >>= fun index => pure (.index index)).run.run system =
      settle system (.ok (.addRow row)) :=
  settle_emit (Emit.run_addRow row system) rfl

theorem run_insertGate (wires selectors : Value) :
    (insertGate wires selectors).run system =
      settle system ((insertGate wires selectors).plan system) := by
  simp only [run, perform, Builder.insertGate, bind_assoc]
  refine settle_bind rfl fun entries _ => ?_
  cases Selectors.ofList? entries with
  | none => rfl
  | some sels =>
      simp only [mapM_element, bind_assoc]
      refine settle_bind rfl fun sels _ => settle_bind rfl fun _ _ =>
        settle_bind rfl fun entries _ => ?_
      cases Wires.ofList? entries with
      | none => rfl
      | some w =>
          simp only [bind_assoc]
          refine settle_bind rfl fun w1 _ => settle_bind rfl fun w2 _ => settle_bind rfl fun w3 _ =>
            settle_bind rfl fun w4 _ => settle_bind rfl fun wo _ => ?_
          exact settle_addRow _

theorem run_insertLinearGate (inputs output q1 q2 q3 q4 : Value) :
    (insertLinearGate inputs output q1 q2 q3 q4).run system =
      settle system ((insertLinearGate inputs output q1 q2 q3 q4).plan system) := by
  simp only [run, perform, Builder.insertLinearGate, bind_assoc]
  refine settle_bind rfl fun entries _ => ?_
  match entries with
  | [w1, w2, w3, w4] =>
      simp only [bind_assoc]
      refine settle_bind rfl fun q1 _ => settle_bind rfl fun q2 _ => settle_bind rfl fun q3 _ =>
        settle_bind rfl fun q4 _ => settle_bind rfl fun _ _ => ?_
      refine settle_bind rfl fun w1 _ => settle_bind rfl fun w2 _ => settle_bind rfl fun w3 _ =>
        settle_bind rfl fun w4 _ => settle_bind rfl fun output _ => ?_
      exact settle_addRow _
  | [] | [_] | [_, _] | [_, _, _] | _ :: _ :: _ :: _ :: _ :: _ => rfl

theorem run_insertBinaryGate (row : Nat → Nat → Nat → Row F) (left right output : Value) :
    (insertBinaryGate row left right output >>= fun index => pure (.index index)).run.run system =
      settle system (system.planBinaryRow row left right output) := by
  simp only [insertBinaryGate, bind_assoc]
  refine settle_bind rfl fun _ _ => settle_bind rfl fun left _ => settle_bind rfl fun right _ =>
    settle_bind rfl fun output _ => ?_
  exact settle_addRow _

theorem run_insertBooleanGate (index : Value) :
    (insertBooleanGate index).run system =
      settle system ((insertBooleanGate index).plan system) := by
  simp only [run, perform, Builder.insertBooleanGate, bind_assoc, pure_bind]
  refine settle_bind rfl fun _ _ => settle_bind rfl fun found _ => ?_
  exact settle_emit (Emit.run_addRow (.boolean found) system) rfl

theorem run_insertConstantGate (index constant : Value) :
    (insertConstantGate index constant).run system =
      settle system ((insertConstantGate index constant).plan system) := by
  simp only [run, perform, Builder.insertConstantGate, bind_assoc]
  refine settle_bind rfl fun value _ => settle_bind rfl fun _ _ => settle_bind rfl fun found _ => ?_
  exact settle_addRow _

theorem run_preparePublicInput (index : Value) :
    (preparePublicInput index).run system =
      settle system ((preparePublicInput index).plan system) := by
  simp only [run, perform, Builder.preparePublicInput, bind_assoc, pure_bind]
  refine settle_bind rfl fun _ _ => settle_bind rfl fun found _ => ?_
  rw [run_bind_ok (run_emit (Emit.run_addRow (.constant found 0) system))]
  have hbinding : (Emit.addBinding ⟨system.size, found⟩).run (system.grow [] [.constant found 0]) =
      ((), system.bindPublic found) := rfl
  exact run_bind_ok (run_emit hbinding)

theorem zeroVariable_ok
    (hbuilding : system.zeroVar?.isNone → system.checkBuilding = .ok ()) :
    (Builder.zeroVariable (F := F)).run.run system =
      (.ok (system.reservedIndex .zero), system.reserve .zero) := by
  have hemit : (emit .reserveZero : Builder F _).run.run system =
      (.ok ⟨system.reservedIndex .zero, 0⟩, system.reserve .zero) :=
    run_emit (Emit.run_reserveZero system)
  rw [Builder.zeroVariable, run_bind_ok (run_get system)]
  by_cases hfresh : system.zeroVar?.isNone
  · rw [if_pos hfresh]
    have hcheck : (ensureBuilding : Builder F Unit).run.run system = (.ok (), system) :=
      congrArg (·, system) (hbuilding hfresh)
    exact (run_bind_ok hcheck).trans (run_bind_ok hemit)
  · rw [if_neg hfresh]
    exact run_bind_ok hemit

theorem zeroVariable_refused {refusal : CircuitError} (hfresh : system.zeroVar?.isNone)
    (hrefused : system.checkBuilding = .error refusal) :
    (Builder.zeroVariable (F := F)).run.run system = (.error refusal, system) := by
  have hcheck : (ensureBuilding : Builder F Unit).run.run system = (.error refusal, system) :=
    congrArg (·, system) hrefused
  rw [Builder.zeroVariable, run_bind_ok (run_get system), if_pos hfresh]
  exact run_bind_error hcheck

theorem run_pad : pad.run system = settle system (pad.plan system) := by
  have hpad (start : System F) : (do
      emit (.padTo (nextPowerOfTwo (← get).size))
      return .done : Builder F (Outcome F)).run.run start =
        (.ok .done, { start.grow [] start.paddingRows with phase := .padded }) := by
    rw [System.grow, List.append_nil]
    rfl
  simp only [run, perform, Builder.pad, bind_assoc]
  rw [run_bind_ok (run_get system)]
  by_cases hphase : system.phase = .proving
  · simp only [plan, if_pos hphase]
    rfl
  simp only [plan, if_neg hphase, bind_assoc]
  rw [run_bind_ok (run_get system)]
  by_cases hnumVars : system.numVars = 0
  · have hpadded : (Except.ok Outcome.done,
        { (system.reserve .zero).grow [] (system.reserve .zero).paddingRows with
          phase := .padded }) = settle system (.ok ⟨.pad, fun _ => .done⟩) := by
      rw [settle, Change.apply, System.padded, System.inhabited_of_eq_zero hnumVars]
    rw [if_pos hnumVars]
    simp only [bind_assoc]
    by_cases hfresh : system.zeroVar?.isNone
    · rw [if_pos ⟨hnumVars, hfresh⟩]
      cases hbuilding : system.checkBuilding with
      | error refusal => exact run_bind_error (zeroVariable_refused hfresh hbuilding)
      | ok =>
          rw [run_bind_ok (zeroVariable_ok fun _ => hbuilding)]
          exact (hpad _).trans hpadded
    · rw [if_neg fun hboth => hfresh hboth.2]
      rw [run_bind_ok (zeroVariable_ok fun hcached => absurd hcached hfresh)]
      exact (hpad _).trans hpadded
  · rw [if_neg hnumVars, if_neg (fun hboth => hnumVars hboth.1)]
    refine (hpad system).trans ?_
    simp only [settle, Change.apply, System.padded, System.inhabited_of_ne_zero hnumVars]
    rfl

theorem run_takeWitness : takeWitness.run system = settle system (takeWitness.plan system) := by
  simp only [run, perform, Builder.takeWitness, bind_assoc]
  rw [run_bind_ok (run_get system)]
  by_cases hphase : system.phase = .proving
  · simp only [plan, if_pos hphase]
    rfl
  · simp only [plan, if_neg hphase]
    rfl

theorem run_linearCombine (inputs q1 q2 q3 q4 : Value) :
    (linearCombine inputs q1 q2 q3 q4).run system =
      settle system ((linearCombine inputs q1 q2 q3 q4).plan system) := by
  simp only [run, perform, Builder.linearCombine, bind_assoc]
  refine settle_bind rfl fun entries _ => ?_
  match entries with
  | [w1, w2, w3, w4] =>
      simp only [bind_assoc, pure_bind]
      refine settle_bind rfl fun q1 _ => settle_bind rfl fun q2 _ => settle_bind rfl fun q3 _ =>
        settle_bind rfl fun q4 _ => ?_
      refine settle_read fun w1 h1 => settle_read fun w2 h2 => settle_read fun w3 h3 =>
        settle_read fun w4 h4 => settle_bind rfl fun _ _ => ?_
      exact settle_emit (Emit.run_linearCombination q1 q2 q3 q4
        (System.in_of_findOperand h1) (System.in_of_findOperand h2)
        (System.in_of_findOperand h3) (System.in_of_findOperand h4)) rfl
  | [] | [_] | [_, _] | [_, _, _] | _ :: _ :: _ :: _ :: _ :: _ => rfl

/-- Operations on two variables only differ in the gadget and in what they report. -/
theorem settle_binary {α : Type} {gadget : Variable F → Variable F → Emit F α}
    {report : α → Outcome F} {combined : Nat → Nat → Plan F}
    (hgadget : ∀ left right : Variable F, left.In system → right.In system →
      system.phase = .building →
      ∃ result, (gadget left right).run system =
          (result, (combined left.index right.index).change.apply system) ∧
        report result = (combined left.index right.index).report system)
    (left right : Value) :
    (read left >>= fun left => read right >>= fun right => ensureBuilding >>= fun _ =>
      emit (gadget left right) >>= fun result => pure (report result)).run.run system =
      settle system (system.planBinary combined left right) := by
  refine settle_read fun left hleft => settle_read fun right hright =>
    settle_bind rfl fun _ hbuilding => ?_
  obtain ⟨result, hrun, hreport⟩ := hgadget _ _ (System.in_of_findOperand hleft)
    (System.in_of_findOperand hright) (System.checkBuilding_eq_ok_iff.mp hbuilding)
  exact settle_emit hrun hreport

theorem run_select (var0 var1 bit : Value) :
    (select var0 var1 bit).run system = settle system ((select var0 var1 bit).plan system) := by
  simp only [run, perform, Builder.select, bind_assoc, pure_bind]
  refine settle_read fun bit hbit => settle_read fun var0 h0 => settle_read fun var1 h1 =>
    settle_bind rfl fun _ _ => ?_
  exact settle_emit (Emit.run_selection (System.in_of_findOperand hbit)
    (System.in_of_findOperand h0) (System.in_of_findOperand h1)) rfl

theorem run_rangeCheck (index count : Value) :
    (rangeCheck index count).run system =
      settle system ((rangeCheck index count).plan system) := by
  simp only [run, perform, Builder.rangeCheck, bind_assoc]
  refine settle_bind rfl fun tooFew hfew => ?_
  cases tooFew with
  | true => rfl
  | false =>
      simp only [Bool.false_eq_true, if_false, bind_assoc]
      refine settle_read fun checked _ => settle_bind rfl fun number hnumber => ?_
      simp only [Element.toBits_eq_bind, ofExcept_bind, ofExcept_pure, bind_assoc, pure_bind]
      refine settle_bind rfl fun _ _ => settle_bind rfl fun _ _ => ?_
      have hnonneg : 0 ≤ number :=
        (Int.natCast_nonneg 2).trans (le_of_isBelow_eq_false hnumber hfew)
      have hdigits : (system.stored checked).bits number =
          Element.digits F (system.stored checked).val number.toNat := by
        rw [← Element.bits_eq_digits, Int.toNat_of_nonneg hnonneg]
      rw [hdigits]
      exact settle_emit (Emit.run_binaryDigits checked number.toNat) rfl

/-- An operation does what its plan says. -/
theorem run_eq_settle (hsystem : system.WellFormed) (operation : Operation) :
    operation.run system = settle system (operation.plan system) := by
  cases operation with
  | newVariable value => exact run_newVariable value
  | addVariables values => exact run_addVariables values
  | witnessValue index => exact run_witnessValue index
  | zeroVariable => exact run_zeroVariable
  | oneVariable => exact run_oneVariable
  | insertGate wires selectors => exact run_insertGate wires selectors
  | insertLinearGate inputs output q1 q2 q3 q4 =>
      exact run_insertLinearGate inputs output q1 q2 q3 q4
  | insertAddGate left right output => exact run_insertBinaryGate .sum left right output
  | insertSubGate left right output => exact run_insertBinaryGate .difference left right output
  | insertMulGate left right output => exact run_insertBinaryGate .product left right output
  | insertBooleanGate index => exact run_insertBooleanGate index
  | insertConstantGate index constant => exact run_insertConstantGate index constant
  | preparePublicInput index => exact run_preparePublicInput index
  | pad => exact run_pad
  | takeWitness => exact run_takeWitness
  | linearCombine inputs q1 q2 q3 q4 => exact run_linearCombine inputs q1 q2 q3 q4
  | add left right =>
      simp only [run, perform, Builder.add, Builder.combine, bind_assoc, pure_bind]
      exact settle_binary (fun _ _ hleft hright _ => ⟨_, Emit.run_sum hleft hright, rfl⟩)
        left right
  | sub left right =>
      simp only [run, perform, Builder.sub, Builder.combine, bind_assoc, pure_bind]
      exact settle_binary (fun _ _ hleft hright _ => ⟨_, Emit.run_difference hleft hright, rfl⟩)
        left right
  | mul left right =>
      simp only [run, perform, Builder.mul, Builder.combine, bind_assoc, pure_bind]
      exact settle_binary (fun _ _ hleft hright _ => ⟨_, Emit.run_product hleft hright, rfl⟩)
        left right
  | equal left right =>
      simp only [run, perform, Builder.equal, bind_assoc]
      exact settle_binary
        (fun left right _ _ _ => ⟨_, Emit.run_equation left right system, rfl⟩) left right
  | select var0 var1 bit => exact run_select var0 var1 bit
  | isEqual left right =>
      simp only [run, perform, Builder.isEqual, Builder.isEqualOrNotEqual, bind_assoc, pure_bind]
      exact settle_binary (fun _ _ hleft hright hbuilding => ⟨_, Emit.run_equalityFlags hsystem
        (by rw [hbuilding]; decide) hleft hright, rfl⟩) left right
  | isNotEqual left right =>
      simp only [run, perform, Builder.isNotEqual, Builder.isEqualOrNotEqual, bind_assoc,
        pure_bind]
      exact settle_binary (fun _ _ hleft hright hbuilding => ⟨_, Emit.run_equalityFlags hsystem
        (by rw [hbuilding]; decide) hleft hright, rfl⟩) left right
  | isEqualOrNotEqual left right =>
      simp only [run, perform, Builder.isEqualOrNotEqual, bind_assoc]
      exact settle_binary (fun _ _ hleft hright hbuilding => ⟨_, Emit.run_equalityFlags hsystem
        (by rw [hbuilding]; decide) hleft hright, rfl⟩) left right
  | rangeCheck index count => exact run_rangeCheck index count

theorem run_of_plan (hsystem : system.WellFormed) {operation : Operation} {plan : Plan F}
    (hplan : operation.plan system = .ok plan) :
    operation.run system = (.ok (plan.report system), plan.change.apply system) := by
  rw [run_eq_settle hsystem, hplan]
  rfl

end Operation

end Plonkish
