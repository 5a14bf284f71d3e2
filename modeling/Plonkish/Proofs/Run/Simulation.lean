import Plonkish.Proofs.Operation.Uninterrupted
import Plonkish.Proofs.Run.Calls
import Plonkish.Proofs.System.Padding

/-!
# Runs on columns

Operations made of calls, which check and change in turn, come to the same end in every
phase as the operations that check first: the outcome is the same, and the columns are those
of the same system.  So a run on columns goes the way of the run on systems.
-/

namespace Plonkish

variable {F : BaseField} {system : System F}

/-- The result of a plan on the columns of a system. -/
def Plan.settleColumns (system : System F) (answer : Except CircuitError (Plan F)) :
    Except CircuitError (Outcome F) × Columns F :=
  ((settle system answer).1, (settle system answer).2.columns)

namespace Stepwise

open Checked Plan

variable {α : Type}

/-! ### Steps of a plan -/

theorem settle_bind {check : Stepwise F α} {answer : Except CircuitError α}
    {next : α → Stepwise F (Outcome F)} {rest : α → Except CircuitError (Plan F)}
    (hcheck : check.run.run system.columns = (answer, system.columns))
    (hnext : ∀ found, answer = .ok found →
      (next found).run.run system.columns = settleColumns system (rest found)) :
    (check >>= next).run.run system.columns = settleColumns system (answer >>= rest) := by
  cases answer with
  | error refusal => exact run_bind_error hcheck
  | ok found => exact (run_bind_ok hcheck).trans (hnext found rfl)

/-- What is read is the stored value of the variable that the argument names. -/
theorem settle_witnessValue (hsystem : system.WellFormed) {index : Value}
    {next : Element F → Stepwise F (Outcome F)} {rest : Nat → Except CircuitError (Plan F)}
    (hnext : ∀ found, system.Names index found →
      (next (system.stored found)).run.run system.columns = settleColumns system (rest found)) :
    (witnessValue index >>= next).run.run system.columns =
      settleColumns system (system.findOperand index >>= rest) := by
  have hread := run_witnessValue hsystem.length_witness index
  cases hfound : system.findOperand index with
  | error refusal =>
      rw [hfound] at hread
      exact run_bind_error hread
  | ok found =>
      rw [hfound] at hread
      exact (run_bind_ok hread).trans
        (hnext found (System.findOperand_eq_ok_iff_names.mp hfound).2)

/-- The changes at the end of a program are the change of the plan. -/
theorem settle_ok {program : Stepwise F α} {report : α → Outcome F} {plan : Plan F} {result : α}
    (hrun : program.run.run system.columns = (.ok result, (plan.change.apply system).columns))
    (hreport : report result = plan.report system) :
    (program >>= fun result => pure (report result)).run.run system.columns =
      settleColumns system (.ok plan) := by
  rw [run_bind_ok hrun, hreport]
  rfl

/-- A program that checks the phase first is refused like the plan, or makes its change. -/
theorem settle_checksPhase (hsystem : system.WellFormed) {program : Stepwise F α}
    {report : α → Outcome F} {plan : Plan F} (hchecks : program.ChecksPhase system)
    (hrun : system.Building → ∃ result,
      program.run.run system.columns = (.ok result, (plan.change.apply system).columns) ∧
        report result = plan.report system) :
    (program >>= fun result => pure (report result)).run.run system.columns =
      settleColumns system (system.checkBuilding >>= fun _ => pure plan) := by
  cases hchecked : system.checkBuilding with
  | error refusal => exact run_bind_error (hchecks refusal hchecked)
  | ok granted =>
      obtain ⟨result, hresult, hreport⟩ :=
        hrun (hsystem.building (System.checkBuilding_eq_ok_iff.mp hchecked))
      exact settle_ok hresult hreport

/-! ### Variables -/

theorem settle_newVariable (value : Value) :
    (newVariable value >>= fun index => pure (.index index)).run.run system.columns =
      settleColumns system ((Operation.newVariable value).plan system) := by
  simp only [newVariable, bind_assoc]
  refine settle_bind rfl fun _ _ => settle_bind rfl fun found _ => ?_
  exact settle_ok (run_appendVariable found) rfl

theorem run_appendVariables (values : List (Element F)) :
    (appendVariables values).run.run system.columns =
      (.ok (List.range' system.numVars values.length), (system.grow values []).columns) := by
  rw [System.columns_grow_values]
  refine Prod.ext ?_ rfl
  change Except.ok (List.range' system.numVars
    (system.numVars + values.length - system.numVars)) = _
  rw [Nat.add_sub_cancel_left]

theorem settle_addVariables (values : Value) :
    (addVariables values >>= fun indices => pure (.indices indices)).run.run system.columns =
      settleColumns system ((Operation.addVariables values).plan system) := by
  simp only [addVariables, Operation.plan, Value.elements, bind_assoc]
  refine settle_bind rfl fun _ _ => settle_bind rfl fun entries _ =>
    settle_bind rfl fun found _ => ?_
  exact settle_ok (run_appendVariables found) rfl

/-! ### Rows -/

theorem settle_pushRow (wires : Value) (sels : Selectors (Element F)) :
    (pushRow wires sels >>= fun index => pure (.index index)).run.run system.columns =
      settleColumns system (do
        system.checkBuilding
        let wires ← wires.entries
        match Wires.ofList? wires with
        | none => throw (.parameter (.wireCount wires.length))
        | some w =>
          let w1 ← system.resolve (.wire 0) w.w1
          let w2 ← system.resolve (.wire 1) w.w2
          let w3 ← system.resolve (.wire 2) w.w3
          let w4 ← system.resolve (.wire 3) w.w4
          let wo ← system.resolve (.wire 4) w.wo
          return .addRow ⟨⟨w1, w2, w3, w4, wo⟩, sels⟩) := by
  simp only [pushRow, bind_assoc]
  refine settle_bind rfl fun _ _ => settle_bind rfl fun entries _ => ?_
  cases Wires.ofList? entries with
  | none => rfl
  | some w =>
      simp only [bind_assoc]
      refine settle_bind rfl fun w1 _ => settle_bind rfl fun w2 _ => settle_bind rfl fun w3 _ =>
        settle_bind rfl fun w4 _ => settle_bind rfl fun wo _ => ?_
      exact settle_ok (run_appendRow ⟨w1, w2, w3, w4, wo⟩ sels) rfl

theorem settle_insertGate (wires selectors : Value) :
    (insertGate wires selectors >>= fun index => pure (.index index)).run.run system.columns =
      settleColumns system ((Operation.insertGate wires selectors).plan system) := by
  simp only [insertGate, bind_assoc]
  refine settle_bind rfl fun entries _ => ?_
  cases Selectors.ofList? entries with
  | none => rfl
  | some sels =>
      simp only [mapM_element, bind_assoc]
      exact settle_bind rfl fun sels _ => settle_pushRow wires sels

theorem settle_insertLinearGate (inputs output q1 q2 q3 q4 : Value) :
    (insertLinearGate inputs output q1 q2 q3 q4 >>= fun index =>
        pure (.index index)).run.run system.columns =
      settleColumns system
        ((Operation.insertLinearGate inputs output q1 q2 q3 q4).plan system) := by
  simp only [insertLinearGate, bind_assoc]
  refine settle_bind rfl fun entries _ => ?_
  rcases entries with _ | ⟨w1, _ | ⟨w2, _ | ⟨w3, _ | ⟨w4, _ | ⟨w5, rest⟩⟩⟩⟩⟩
  case cons.cons.cons.cons.nil =>
      simp only [bind_assoc]
      refine settle_bind rfl fun q1 _ => settle_bind rfl fun q2 _ => settle_bind rfl fun q3 _ =>
        settle_bind rfl fun q4 _ => ?_
      exact settle_pushRow (.list [w1, w2, w3, w4, output]) (.linear q1 q2 q3 q4)
  all_goals rfl

/-- The wires that carry variable 0 are not refused once the others are variables. -/
theorem settle_pushBinary (left right output : Value) (sels : Selectors (Element F)) :
    (pushBinary sels left right output >>= fun index =>
        pure (.index index)).run.run system.columns =
      settleColumns system (system.planBinaryRow (fun l r o => ⟨⟨l, r, 0, 0, o⟩, sels⟩)
        left right output) := by
  rw [pushBinary, settle_pushRow, System.planBinaryRow]
  cases system.checkBuilding with
  | error refusal => rfl
  | ok granted =>
      cases hleft : system.resolve (.wire 0) left with
      | error refusal =>
          simp only [Value.entries_list, except_bind_ok, Wires.ofList?, hleft, except_bind_error]
      | ok l =>
          have hzero (slot : Nat) : system.resolve (.wire slot) (.int 0) = .ok 0 :=
            System.resolve_eq_ok_iff.mpr (System.resolve_eq_ok_iff.mp hleft).zero
          simp only [Value.entries_list, except_bind_ok, Wires.ofList?, hleft, hzero]

/-- A row that carries one variable is refused only if its first wire is. -/
theorem settle_single (hsystem : system.WellFormed) {program : Stepwise F α}
    {report : α → Outcome F} {plan : Nat → Plan F} {index : Value}
    (hchecks : program.ChecksPhase system)
    (hrefused : system.Building → ∀ refusal,
      system.resolve (.wire 0) index = .error refusal →
        program.run.run system.columns = (.error refusal, system.columns))
    (hrun : system.Building → ∀ found, system.Names index found → ∃ result,
      program.run.run system.columns =
          (.ok result, ((plan found).change.apply system).columns) ∧
        report result = (plan found).report system) :
    (program >>= fun result => pure (report result)).run.run system.columns =
      settleColumns system (do
        system.checkBuilding
        let found ← system.resolve (.wire 0) index
        return plan found) := by
  cases hchecked : system.checkBuilding with
  | error refusal => exact run_bind_error (hchecks refusal hchecked)
  | ok granted =>
      have hbuilding := hsystem.building (System.checkBuilding_eq_ok_iff.mp hchecked)
      cases hresolve : system.resolve (.wire 0) index with
      | error refusal => exact run_bind_error (hrefused hbuilding refusal hresolve)
      | ok found =>
          obtain ⟨result, hresult, hreport⟩ :=
            hrun hbuilding found (System.resolve_eq_ok_iff.mp hresolve)
          exact settle_ok hresult hreport

/-- A row with a refused first wire is not added. -/
theorem run_pushRow_error (hbuilding : system.Building) {first : Value}
    {rest : List Value} {refusal : CircuitError} (hlength : rest.length = 4)
    (hfirst : system.resolve (.wire 0) first = .error refusal) (sels : Selectors (Element F)) :
    (pushRow (.list (first :: rest)) sels).run.run system.columns =
      (.error refusal, system.columns) := by
  obtain ⟨w2, w3, w4, wo, rfl⟩ := List.length_eq_four.mp hlength
  have hwire : (wire 0 first : Stepwise F Nat).run.run system.columns =
      (.error refusal, system.columns) :=
    congrArg (·, system.columns) hfirst
  rw [pushRow, run_bind_ok (run_ensureBuilding hbuilding),
    run_bind_ok (run_entries (Value.entries_list _) _)]
  exact run_bind_error hwire

theorem settle_insertBooleanGate (hsystem : system.WellFormed) (index : Value) :
    (insertBooleanGate index >>= fun bit => pure (.boolVar bit)).run.run system.columns =
      settleColumns system ((Operation.insertBooleanGate index).plan system) := by
  have hgate : (insertMulGate index index index : Stepwise F Nat) =
      pushRow (.list [index, index, .int 0, .int 0, index]) .product := rfl
  refine settle_single hsystem ?_ ?_ ?_
  · rw [insertBooleanGate, hgate]
    exact (checksPhase_pushRow _ _).bind _
  · intro hbuilding refusal hrefused
    rw [insertBooleanGate, hgate]
    exact run_bind_error (run_pushRow_error hbuilding rfl hrefused _)
  · intro hbuilding found hindex
    exact ⟨_, run_insertBooleanGate hbuilding hindex, rfl⟩

theorem settle_insertConstantGate (hsystem : system.WellFormed) (index constant : Value) :
    (insertConstantGate index constant >>= fun row => pure (.index row)).run.run system.columns =
      settleColumns system ((Operation.insertConstantGate index constant).plan system) := by
  rw [insertConstantGate, bind_assoc]
  refine settle_bind rfl fun value _ => settle_single hsystem (checksPhase_pushRow _ _) ?_ ?_
  · intro hbuilding refusal hrefused
    exact run_pushRow_error hbuilding rfl hrefused _
  · intro hbuilding found hindex
    exact ⟨_, run_pushRow_replicate hbuilding hindex _, rfl⟩

/-- The two lists of bindings are both appended to: the variable of the row is found again. -/
theorem run_preparePublicInput (hbuilding : system.Building) {index : Value} {found : Nat}
    (hindex : system.Names index found) :
    (preparePublicInput index).run.run system.columns =
      (.ok system.size, (system.bindPublic found).columns) := by
  have hrow : (insertConstantGate index (.int 0)).run.run system.columns =
      (.ok system.size, (system.grow [] [.constant found 0]).columns) :=
    run_pushRow_replicate hbuilding hindex (.constant 0)
  have hwire : (resolveIndex system.numVars (.wire 0) index) = .ok found :=
    System.resolve_eq_ok_iff.mpr hindex
  have hbound : (do
      modify fun columns =>
        { columns with bindingRows := columns.bindingRows ++ [system.size] }
      let found ← wire 0 index
      modify fun columns => { columns with bindingVars := columns.bindingVars ++ [found] }
      return system.size : Stepwise F Nat).run.run
        (system.grow [] [.constant found 0]).columns =
      (.ok system.size, (system.bindPublic found).columns) := by
    rw [System.columns_bindPublic]
    refine (run_bind_ok rfl).trans ((run_bind_ok (congrArg (·, _) hwire)).trans ?_)
    rfl
  rw [preparePublicInput, run_bind_ok hrow]
  exact hbound

theorem settle_preparePublicInput (hsystem : system.WellFormed) (index : Value) :
    (preparePublicInput index >>= fun row => pure (.index row)).run.run system.columns =
      settleColumns system ((Operation.preparePublicInput index).plan system) := by
  have hgate : (insertConstantGate index (.int 0) : Stepwise F Nat) =
      pushRow (.list (List.replicate Wires.count index)) (.constant 0) := rfl
  refine settle_single hsystem ?_ ?_ ?_
  · rw [preparePublicInput, hgate]
    exact (checksPhase_pushRow _ _).bind _
  · intro hbuilding refusal hrefused
    rw [preparePublicInput, hgate]
    exact run_bind_error (run_pushRow_error hbuilding rfl hrefused _)
  · intro hbuilding found hindex
    exact ⟨system.size, run_preparePublicInput hbuilding hindex, rfl⟩

/-! ### Reserved variables and completion -/

theorem settle_reserved (hsystem : system.WellFormed) (constant : Reserved) :
    (reserved constant >>= fun index => pure (.index index)).run.run system.columns =
      settleColumns system (system.planReserve constant) := by
  rw [System.planReserve]
  cases hreserved : system.reserved? constant with
  | none =>
      exact settle_checksPhase hsystem (checksPhase_reserved hreserved) fun hbuilding =>
        ⟨_, run_reserved _ fun _ => hbuilding, rfl⟩
  | some index =>
      exact settle_ok (run_reserved _ fun hnone => absurd hnone (by simp [hreserved])) rfl

theorem run_padTo (start : System F) :
    (padTo (Builder.nextPowerOfTwo start.size)).run.run start.columns =
      (.ok (), ({ start.grow [] start.paddingRows with phase := .padded } : System F).columns) := by
  have hle : start.size ≤ Builder.nextPowerOfTwo start.size :=
    (le_max_left _ 1).trans (isLeast_nextPowerOfTwo _).1.2
  have hcolumns := start.columns_grow_padding (Builder.nextPowerOfTwo start.size - start.size)
  rw [Nat.add_sub_cancel' hle] at hcolumns
  exact congrArg (fun columns : Columns F =>
    (Except.ok (), { columns with phase := .padded })) hcolumns.symm

theorem run_pad_rows (start : System F) :
    (do
      padTo (Builder.nextPowerOfTwo (← get).size)
      return .done : Stepwise F (Outcome F)).run.run start.columns =
      (.ok .done,
        ({ start.grow [] start.paddingRows with phase := .padded } : System F).columns) :=
  (run_bind_ok (run_get _)).trans (run_bind_ok (run_padTo start))

/-- Only a system without variables reserves one, and then none is cached. -/
theorem settle_pad (hsystem : system.WellFormed) :
    (pad >>= fun _ => pure .done).run.run system.columns =
      settleColumns system (Operation.pad.plan system) := by
  simp only [pad, Operation.plan, bind_assoc]
  rw [run_bind_ok (run_get _), System.phase_columns]
  by_cases hphase : system.phase = .proving
  · simp only [if_pos hphase]
    rfl
  simp only [if_neg hphase, bind_assoc]
  rw [run_bind_ok (run_get _), System.numVars_columns]
  by_cases hnumVars : system.numVars = 0
  · have hfresh := (hsystem.eq_nil_of_numVars hnumVars).2.2 .zero
    rw [if_pos hnumVars, if_pos ⟨hnumVars, Option.isNone_iff_eq_none.mpr hfresh⟩]
    simp only [bind_assoc]
    cases hchecked : system.checkBuilding with
    | error refusal => exact run_bind_error (checksPhase_reserved hfresh refusal hchecked)
    | ok granted =>
        have hbuilding := hsystem.building (System.checkBuilding_eq_ok_iff.mp hchecked)
        refine (run_bind_ok (run_reserved .zero fun _ => hbuilding)).trans
          ((run_pad_rows (system.reserve .zero)).trans ?_)
        rw [← System.inhabited_of_eq_zero hnumVars]
        rfl
  · rw [if_neg hnumVars, if_neg (fun hboth => hnumVars hboth.1)]
    refine (run_pad_rows system).trans ?_
    have hinhabited := System.inhabited_of_ne_zero hnumVars
    simp only [settleColumns, settle, Change.apply, System.padded, hinhabited]
    rfl

theorem settle_takeWitness :
    (takeWitness >>= fun values => pure (.witness values)).run.run system.columns =
      settleColumns system (Operation.takeWitness.plan system) := by
  simp only [takeWitness, Operation.plan, bind_assoc]
  rw [run_bind_ok (run_get _), System.phase_columns]
  by_cases hphase : system.phase = .proving
  · simp only [if_pos hphase]
    rfl
  · simp only [if_neg hphase]
    rfl

/-! ### Gadgets -/

/-- A gadget that ends with a variable and its row defines the variable. -/
theorem settle_define (hsystem : system.WellFormed) {value : Element F}
    {gate : Value → Stepwise F Nat} {formula : Formula F}
    (hrun : system.Building → (define value gate).run.run system.columns =
      (.ok system.numVars, (system.define formula).columns)) :
    (define value gate >>= fun index => pure (.index index)).run.run system.columns =
      settleColumns system (system.checkBuilding >>= fun _ => pure (.define formula)) :=
  settle_checksPhase hsystem (checksPhase_define _ _) fun hbuilding =>
    ⟨system.numVars, hrun hbuilding, rfl⟩

theorem settle_linearCombine (hsystem : system.WellFormed) (inputs q1 q2 q3 q4 : Value) :
    (linearCombine inputs q1 q2 q3 q4 >>= fun index =>
        pure (.index index)).run.run system.columns =
      settleColumns system ((Operation.linearCombine inputs q1 q2 q3 q4).plan system) := by
  simp only [linearCombine, bind_assoc]
  refine settle_bind rfl fun entries hentries => ?_
  rcases entries with _ | ⟨w1, _ | ⟨w2, _ | ⟨w3, _ | ⟨w4, _ | ⟨w5, rest⟩⟩⟩⟩⟩
  case cons.cons.cons.cons.nil =>
      simp only [bind_assoc]
      refine settle_bind rfl fun q1 _ => settle_bind rfl fun q2 _ => settle_bind rfl fun q3 _ =>
        settle_bind rfl fun q4 _ => ?_
      refine settle_witnessValue hsystem fun w1 h1 => settle_witnessValue hsystem fun w2 h2 =>
        settle_witnessValue hsystem fun w3 h3 => settle_witnessValue hsystem fun w4 h4 => ?_
      exact settle_define hsystem fun hbuilding => run_define_insertLinearGate hbuilding hentries
        (.cons h1 (.cons h2 (.cons h3 (.cons h4 .nil)))) _ q1 q2 q3 q4
  all_goals rfl

theorem settle_combine (hsystem : system.WellFormed)
    {operation : Element F → Element F → Element F} {sels : Selectors (Element F)}
    {formula : Nat → Nat → Formula F}
    (hformula : ∀ l r, system.define (formula l r) =
      system.grow [operation (system.stored l) (system.stored r)]
        [⟨⟨l, r, 0, 0, system.numVars⟩, sels⟩]) (left right : Value) :
    (combine operation (pushBinary sels) left right >>= fun index =>
        pure (.index index)).run.run system.columns =
      settleColumns system (system.planBinary (fun l r => .define (formula l r)) left right) := by
  simp only [combine, bind_assoc]
  refine settle_witnessValue hsystem fun l hleft =>
    settle_witnessValue hsystem fun r hright => settle_define hsystem fun hbuilding => ?_
  rw [hformula]
  exact run_define_pushBinary hbuilding hleft hright _ sels

/-- A cached zero does not ask for the phase, but the row does. -/
theorem checksPhase_equation (left right : Value) :
    (reserved .zero >>= fun index => insertSubGate left right (.ofNat index) :
      Stepwise F Nat).ChecksPhase system := by
  cases hreserved : system.reserved? .zero with
  | none => exact (checksPhase_reserved hreserved).bind _
  | some index =>
      intro refusal hrefused
      rw [run_bind_ok (run_reserved_of_some hreserved), insertSubGate_eq]
      exact checksPhase_pushRow _ _ refusal hrefused

theorem run_equation (hsystem : system.WellFormed) (hbuilding : system.Building)
    {left right : Value} {l r : Nat} (hleft : system.Names left l)
    (hright : system.Names right r) :
    (reserved .zero >>= fun index => insertSubGate left right (.ofNat index) :
      Stepwise F Nat).run.run system.columns =
      (.ok (system.reserve .zero).size, (system.equate l r).columns) := by
  have hreserved : (system.reserve .zero).Building :=
    (hsystem.reserve .zero).building (by rw [System.phase_reserve, hbuilding.phase])
  have hle := system.numVars_le_reserve .zero
  rw [run_bind_ok (run_reserved _ fun _ => hbuilding), insertSubGate_eq]
  exact run_pushBinary hreserved (hleft.mono hle) (hright.mono hle)
    (System.names_ofNat (hsystem.reservedIndex_lt .zero)) _

theorem settle_equal (hsystem : system.WellFormed) (left right : Value) :
    (equal left right >>= fun _ => pure .done).run.run system.columns =
      settleColumns system ((Operation.equal left right).plan system) := by
  simp only [equal, bind_assoc, pure_bind]
  refine settle_witnessValue hsystem fun l hleft =>
    settle_witnessValue hsystem fun r hright => ?_
  rw [← bind_assoc]
  exact settle_checksPhase hsystem (checksPhase_equation left right) fun hbuilding =>
    ⟨_, run_equation hsystem hbuilding hleft hright, rfl⟩

theorem settle_select (hsystem : system.WellFormed) (var0 var1 bit : Value) :
    (select var0 var1 bit >>= fun index => pure (.index index)).run.run system.columns =
      settleColumns system ((Operation.select var0 var1 bit).plan system) := by
  simp only [select, bind_assoc, insertGate_selection]
  refine settle_witnessValue hsystem fun b hbit => settle_witnessValue hsystem fun v0 h0 =>
    settle_witnessValue hsystem fun v1 h1 => settle_define hsystem fun hbuilding => ?_
  exact run_define hbuilding (.cons hbit (.cons h0 (.cons hbit (.cons h1 .nil)))) _ _

theorem settle_isEqualOrNotEqual (hsystem : system.WellFormed)
    (report : EqualityFlags → Outcome F) (left right : Value) :
    (isEqualOrNotEqual left right >>= fun flags => pure (report flags)).run.run system.columns =
      settleColumns system (system.planBinary (fun l r => .flags l r report) left right) := by
  simp only [isEqualOrNotEqual, sub, combine, bind_assoc]
  refine settle_witnessValue hsystem fun l hleft =>
    settle_witnessValue hsystem fun r hright => ?_
  rw [← bind_assoc]
  refine settle_checksPhase hsystem ((checksPhase_define _ _).bind _) fun hbuilding =>
    ⟨_, ?_, rfl⟩
  rw [insertSubGate_eq, run_bind_ok (run_define_pushBinary hbuilding hleft hright _ _)]
  exact run_differenceFlags hsystem hbuilding hleft.2 hright.2

theorem settle_rangeCheck (hsystem : system.WellFormed) (index count : Value) :
    (rangeCheck index count >>= fun bits => pure (.boolVars bits)).run.run system.columns =
      settleColumns system ((Operation.rangeCheck index count).plan system) := by
  simp only [rangeCheck, bind_assoc]
  refine settle_bind rfl fun tooFew hfew => ?_
  cases tooFew with
  | true => rfl
  | false =>
      simp only [Bool.false_eq_true, if_false, bind_assoc]
      refine settle_witnessValue hsystem fun checked hnames =>
        settle_bind rfl fun number hnumber => ?_
      simp only [Element.toBits_eq_bind, ofExcept_bind, ofExcept_pure, bind_assoc, pure_bind]
      refine settle_bind rfl fun _ _ => ?_
      have htwo : 2 ≤ number := le_of_isBelow_eq_false hnumber hfew
      have hbits : (system.stored checked).bits number =
          Element.digits F (system.stored checked).val number.toNat := by
        rw [← Element.bits_eq_digits, Int.toNat_of_nonneg (by omega)]
      have hdigits : Element.digits F (system.stored checked).val number.toNat ≠ [] := by
        apply List.ne_nil_of_length_pos
        rw [Element.length_digits]
        omega
      rw [hbits]
      exact settle_checksPhase hsystem (checksPhase_binaryDigits index hdigits) fun hbuilding =>
        ⟨_, run_binaryDigits hbuilding hnames number.toNat, rfl⟩

end Stepwise

namespace Operation

open Stepwise

/-- What calls that check and change in turn make of the columns of a system are the columns
of the system that the operation leaves. -/
theorem runStepwise_columns (hsystem : system.WellFormed) (operation : Operation) :
    operation.runStepwise system.columns =
      ((operation.run system).1, (operation.run system).2.columns) := by
  rw [run_eq_settle hsystem]
  change (Stepwise.perform operation).run.run system.columns =
    Plan.settleColumns system (operation.plan system)
  cases operation with
  | newVariable value => exact settle_newVariable value
  | addVariables values => exact settle_addVariables values
  | witnessValue index => exact settle_witnessValue hsystem fun _ _ => rfl
  | zeroVariable => exact settle_reserved hsystem .zero
  | oneVariable => exact settle_reserved hsystem .one
  | insertGate wires selectors => exact settle_insertGate wires selectors
  | insertLinearGate inputs output q1 q2 q3 q4 =>
      exact settle_insertLinearGate inputs output q1 q2 q3 q4
  | insertAddGate left right output =>
      rw [Stepwise.perform, insertAddGate_eq]
      exact settle_pushBinary left right output _
  | insertSubGate left right output =>
      rw [Stepwise.perform, insertSubGate_eq]
      exact settle_pushBinary left right output _
  | insertMulGate left right output => exact settle_pushBinary left right output .product
  | insertBooleanGate index => exact settle_insertBooleanGate hsystem index
  | insertConstantGate index constant => exact settle_insertConstantGate hsystem index constant
  | preparePublicInput index => exact settle_preparePublicInput hsystem index
  | pad => exact settle_pad hsystem
  | takeWitness => exact settle_takeWitness
  | linearCombine inputs q1 q2 q3 q4 => exact settle_linearCombine hsystem inputs q1 q2 q3 q4
  | add left right =>
      rw [Stepwise.perform, Stepwise.add, insertAddGate_eq]
      exact settle_combine hsystem (fun _ _ => rfl) left right
  | sub left right =>
      rw [Stepwise.perform, Stepwise.sub, insertSubGate_eq]
      exact settle_combine hsystem (fun _ _ => rfl) left right
  | mul left right =>
      rw [Stepwise.perform, Stepwise.mul, insertMulGate_eq]
      exact settle_combine hsystem (fun _ _ => rfl) left right
  | equal left right => exact settle_equal hsystem left right
  | select var0 var1 bit => exact settle_select hsystem var0 var1 bit
  | isEqual left right => exact settle_isEqualOrNotEqual hsystem (.boolVar ·.equal) left right
  | isNotEqual left right =>
      exact settle_isEqualOrNotEqual hsystem (.boolVar ·.notEqual) left right
  | isEqualOrNotEqual left right => exact settle_isEqualOrNotEqual hsystem .flags left right
  | rangeCheck index count => exact settle_rangeCheck hsystem index count

theorem runAllStepwise_columns (hsystem : system.WellFormed) (operations : List Operation) :
    runAllStepwise operations system.columns =
      ((runAll operations system).1, (runAll operations system).2.columns) := by
  induction operations generalizing system with
  | nil => rfl
  | cons operation operations ih =>
      rw [runAllStepwise, runAll, runStepwise_columns hsystem]
      simp only [ih (hsystem.run operation)]

end Operation

namespace Columns

/-- The columns after a run made of calls are those of the system after the run. -/
theorem after_empty (quotient : QuotientDomain) (operations : List Operation) :
    (empty F quotient).after operations = ((System.empty F quotient).after operations).columns :=
  congrArg Prod.snd
    (Operation.runAllStepwise_columns (System.wellFormed_empty F quotient) operations)

/-- What was built column by column reads like the system. -/
theorem matrix_after_empty (quotient : QuotientDomain) (operations : List Operation) :
    ((empty F quotient).after operations).matrix =
      ((System.empty F quotient).after operations).matrix := by
  rw [after_empty, System.matrix_columns]

end Columns

end Plonkish
