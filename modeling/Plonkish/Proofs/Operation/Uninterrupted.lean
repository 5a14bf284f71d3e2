import Plonkish.Proofs.Matrix.Verify
import Plonkish.Proofs.Operation.Accepted
import Plonkish.Proofs.System.Columns

/-!
# Calls that are not refused halfway

A gadget made of calls reads its operands and then adds a variable or a row, which only
succeeds while the system is being built.  From there on no call is refused: the phase
stays, the operands stay variables of the system, the new variables are variables as well
and so is variable 0, since there is a variable.  What the calls make of the columns of a
system are the columns of what the system grows to.
-/

namespace Plonkish

variable {F : BaseField} {system : System F}

namespace System

/-- The system is being built, and there is a stored value for every variable. -/
structure Building (system : System F) : Prop where
  phase : system.phase = .building
  length_witness : system.witness.length = system.numVars

theorem WellFormed.building (hsystem : system.WellFormed) (hphase : system.phase = .building) :
    system.Building where
  phase := hphase
  length_witness := hsystem.length_witness (by rw [hphase]; decide)

theorem Building.grow (hbuilding : system.Building) (values : List (Element F))
    (rows : List (Row F)) : (system.grow values rows).Building where
  phase := hbuilding.phase
  length_witness := length_witness_grow hbuilding.length_witness values rows

end System

namespace Stepwise

variable {α β : Type}

open Checked

/-! ### Checks and reads -/

/-- The program makes sure that the system is being built before it does anything. -/
def ChecksPhase (program : Stepwise F α) (system : System F) : Prop :=
  ∀ refusal, system.checkBuilding = .error refusal →
    program.run.run system.columns = (.error refusal, system.columns)

theorem checksPhase_ensureBuilding : (ensureBuilding : Stepwise F Unit).ChecksPhase system :=
  fun _ hrefused => congrArg (·, system.columns) hrefused

theorem ChecksPhase.bind {first : Stepwise F α} (hfirst : first.ChecksPhase system)
    (next : α → Stepwise F β) : (first >>= next).ChecksPhase system :=
  fun refusal hrefused => run_bind_error (hfirst refusal hrefused)

theorem run_ensureBuilding (hbuilding : system.Building) :
    (ensureBuilding : Stepwise F Unit).run.run system.columns = (.ok (), system.columns) :=
  congrArg (·, system.columns) (System.checkBuilding_eq_ok_iff.mpr hbuilding.phase)

theorem run_wire {index : Value} {found : Nat} (slot : Nat) (hnames : system.Names index found) :
    (wire slot index : Stepwise F Nat).run.run system.columns = (.ok found, system.columns) :=
  congrArg (·, system.columns) (System.resolve_eq_ok_iff.mpr hnames)

/-- The store is never too short for a variable that is found. -/
theorem run_witnessValue
    (hlength : system.phase ≠ .proving → system.witness.length = system.numVars) (index : Value) :
    (witnessValue index).run.run system.columns =
      ((system.findOperand index).map system.stored, system.columns) := by
  rw [witnessValue, run_bind_ok (run_get _), System.phase_columns, System.findOperand]
  by_cases hphase : system.phase = .proving
  · simp only [if_pos hphase]
    rfl
  · simp only [if_neg hphase]
    refine (run_bind_ok (run_get _)).trans ?_
    cases hfound : system.resolve .operand index with
    | error refusal => exact run_bind_error (congrArg (·, system.columns) hfound)
    | ok found =>
        have hlt : found < system.witness.length := by
          rw [hlength hphase]
          exact System.resolve_lt hfound
        have hvalue : entryAt system.columns.witness (found : Int) = .ok (system.stored found) :=
          ConstraintMatrix.entryAt_getD 0 hlt
        refine (run_bind_ok (congrArg (·, system.columns) hfound)).trans ?_
        refine (run_bind_ok (run_get _)).trans ?_
        exact congrArg (·, system.columns) hvalue

theorem run_witnessValue_of_names (hbuilding : system.Building) {index : Value} {found : Nat}
    (hnames : system.Names index found) :
    (witnessValue index).run.run system.columns = (.ok (system.stored found), system.columns) := by
  rw [run_witnessValue fun _ => hbuilding.length_witness, hnames.findOperand_eq hbuilding.phase]
  rfl

/-! ### Variables and rows -/

theorem run_appendVariable (value : Element F) :
    (appendVariable value).run.run system.columns =
      (.ok system.numVars, (system.grow [value] []).columns) := by
  rw [System.columns_grow_values]
  rfl

theorem run_newVariable (hbuilding : system.Building) (value : Element F) :
    (newVariable (.element value)).run.run system.columns =
      (.ok system.numVars, (system.grow [value] []).columns) := by
  rw [newVariable, run_bind_ok (run_ensureBuilding hbuilding),
    run_bind_ok (run_element (Value.toElement_element value) _)]
  exact run_appendVariable value

theorem checksPhase_newVariable (value : Value) :
    (newVariable value : Stepwise F Nat).ChecksPhase system :=
  checksPhase_ensureBuilding.bind _

theorem run_appendRow (wires : Wires Nat) (sels : Selectors (Element F)) :
    (appendRow wires sels).run.run system.columns =
      (.ok system.size, (system.grow [] [⟨wires, sels⟩]).columns) := by
  rw [System.columns_grow_row]
  rfl

theorem checksPhase_pushRow (wires : Value) (sels : Selectors (Element F)) :
    (pushRow wires sels).ChecksPhase system :=
  checksPhase_ensureBuilding.bind _

theorem run_pushRow (hbuilding : system.Building) (given : Wires Value) (found : Wires Nat)
    (hfound : List.Forall₂ system.Names given.toList found.toList) (sels : Selectors (Element F)) :
    (pushRow (.list given.toList) sels).run.run system.columns =
      (.ok system.size, (system.grow [] [⟨found, sels⟩]).columns) := by
  obtain _ | ⟨h1, _ | ⟨h2, _ | ⟨h3, _ | ⟨h4, _ | ⟨ho, -⟩⟩⟩⟩⟩ := hfound
  rw [pushRow, run_bind_ok (run_ensureBuilding hbuilding),
    run_bind_ok (run_entries (Value.entries_list _) _), Wires.ofList?_toList]
  simp only
  rw [run_bind_ok (run_wire 0 h1), run_bind_ok (run_wire 1 h2), run_bind_ok (run_wire 2 h3),
    run_bind_ok (run_wire 3 h4), run_bind_ok (run_wire 4 ho)]
  exact run_appendRow _ _

/-- A linear gate with fit arguments is a row. -/
theorem insertLinearGate_eq {inputs q1 q2 q3 q4 w1 w2 w3 w4 : Value} {e1 e2 e3 e4 : Element F}
    (hinputs : inputs.entries = .ok [w1, w2, w3, w4])
    (h1 : q1.toElement F = .ok e1) (h2 : q2.toElement F = .ok e2)
    (h3 : q3.toElement F = .ok e3) (h4 : q4.toElement F = .ok e4) (output : Value) :
    insertLinearGate inputs output q1 q2 q3 q4 =
      pushRow (.list [w1, w2, w3, w4, output]) (.linear e1 e2 e3 e4) := by
  rw [insertLinearGate, entries, hinputs]
  change (do
    let q1 ← element q1
    let q2 ← element q2
    let q3 ← element q3
    let q4 ← element q4
    pushRow (.list [w1, w2, w3, w4, output]) (.linear q1 q2 q3 q4)) = _
  rw [element, h1, element, h2, element, h3, element, h4]
  rfl

theorem insertAddGate_eq :
    (insertAddGate : Value → Value → Value → Stepwise F Nat) = pushBinary (.linear 1 1 0 0) := by
  funext left right output
  exact insertLinearGate_eq (Value.entries_list _) rfl rfl rfl rfl output

theorem insertSubGate_eq :
    (insertSubGate : Value → Value → Value → Stepwise F Nat) =
      pushBinary (.linear 1 (-1) 0 0) := by
  have hminus : (Value.int (-1)).toElement F = .ok (-1) :=
    congrArg Except.ok Element.ofInt_neg_one
  funext left right output
  exact insertLinearGate_eq (Value.entries_list _) rfl hminus rfl rfl output

theorem insertMulGate_eq :
    (insertMulGate : Value → Value → Value → Stepwise F Nat) = pushBinary .product := rfl

theorem insertGate_selection (wires : Value) :
    (insertGate wires (.list ([0, 1, 0, 0, -1, 1, 0, 0, 0, 0, 0, 0, 1].map .int)) :
      Stepwise F Nat) = pushRow wires .selection := by
  rw [Selectors.selection, ← Element.ofInt_neg_one]
  rfl

theorem run_pushBinary (hbuilding : system.Building) {left right output : Value}
    {l r o : Nat} (hleft : system.Names left l) (hright : system.Names right r)
    (houtput : system.Names output o) (sels : Selectors (Element F)) :
    (pushBinary sels left right output).run.run system.columns =
      (.ok system.size, (system.grow [] [⟨⟨l, r, 0, 0, o⟩, sels⟩]).columns) :=
  run_pushRow hbuilding ⟨left, right, .int 0, .int 0, output⟩ ⟨l, r, 0, 0, o⟩
    (.cons hleft (.cons hright (.cons hleft.zero (.cons hleft.zero (.cons houtput .nil))))) sels

theorem run_insertLinearGate (hbuilding : system.Building)
    {output q1 q2 q3 q4 w1 w2 w3 w4 : Value} {f1 f2 f3 f4 fo : Nat} {e1 e2 e3 e4 : Element F}
    (h1 : q1.toElement F = .ok e1) (h2 : q2.toElement F = .ok e2)
    (h3 : q3.toElement F = .ok e3) (h4 : q4.toElement F = .ok e4)
    (hfound : List.Forall₂ system.Names [w1, w2, w3, w4, output] [f1, f2, f3, f4, fo]) :
    (insertLinearGate (.list [w1, w2, w3, w4]) output q1 q2 q3 q4).run.run system.columns =
      (.ok system.size, (system.grow [] [.linear f1 f2 f3 f4 fo e1 e2 e3 e4]).columns) := by
  rw [insertLinearGate_eq (Value.entries_list _) h1 h2 h3 h4]
  exact run_pushRow hbuilding ⟨w1, w2, w3, w4, output⟩ ⟨f1, f2, f3, f4, fo⟩ hfound _

theorem run_pushRow_replicate (hbuilding : system.Building) {index : Value} {found : Nat}
    (hindex : system.Names index found) (sels : Selectors (Element F)) :
    (pushRow (.list (List.replicate Wires.count index)) sels).run.run system.columns =
      (.ok system.size, (system.grow [] [⟨.replicate found, sels⟩]).columns) :=
  run_pushRow hbuilding (.replicate index) (.replicate found)
    (.cons hindex (.cons hindex (.cons hindex (.cons hindex (.cons hindex .nil))))) sels

theorem run_insertConstantGate (hbuilding : system.Building) {index : Value} {found : Nat}
    (hindex : system.Names index found) (value : Element F) :
    (insertConstantGate index (.element value)).run.run system.columns =
      (.ok system.size, (system.grow [] [.constant found value]).columns) := by
  rw [insertConstantGate, run_bind_ok (run_element (Value.toElement_element value) _)]
  exact run_pushRow_replicate hbuilding hindex _

theorem run_insertBooleanGate (hbuilding : system.Building) {index : Value} {found : Nat}
    (hindex : system.Names index found) :
    (insertBooleanGate index : Stepwise F _).run.run system.columns =
      (.ok ⟨found⟩, (system.grow [] [.boolean found]).columns) := by
  have hadded : (system.grow [] [.boolean found]).Names index found := hindex
  rw [insertBooleanGate, insertMulGate_eq,
    run_bind_ok (run_pushBinary hbuilding hindex hindex hindex .product)]
  exact run_bind_ok (run_wire 0 hadded)

/-! ### Reserved variables -/

theorem run_reserved_of_some {constant : Reserved} {index : Nat}
    (hcached : system.reserved? constant = some index) :
    (reserved constant : Stepwise F Nat).run.run system.columns =
      (.ok index, system.columns) := by
  rw [reserved, run_bind_ok (run_get _), System.reserved?_columns, hcached]
  rfl

theorem run_reserved (constant : Reserved)
    (hbuilding : system.reserved? constant = none → system.Building) :
    (reserved constant : Stepwise F Nat).run.run system.columns =
      (.ok (system.reservedIndex constant), (system.reserve constant).columns) := by
  cases hreserved : system.reserved? constant with
  | some index =>
      rw [run_reserved_of_some hreserved, System.reservedIndex_of_some hreserved,
        System.reserve_of_some hreserved]
  | none =>
      have hfresh := hbuilding hreserved
      have hnames : (system.grow [constant.value F] []).Names (.ofNat system.numVars)
          system.numVars := System.names_ofNat (Nat.lt_succ_self _)
      have hremember : (modify (·.remember system.numVars constant) :
          Stepwise F Unit).run.run (system.grow [constant.value F]
            [.constant system.numVars (constant.value F)]).columns =
          (.ok (), (system.reserve constant).columns) := by
        rw [System.reserve_of_none hreserved, System.columns_remember]
        rfl
      rw [System.reservedIndex_of_none hreserved, reserved, run_bind_ok (run_get _),
        System.reserved?_columns, hreserved]
      simp only
      rw [run_bind_ok (run_newVariable hfresh _),
        run_bind_ok (run_insertConstantGate (hfresh.grow _ _) hnames _), System.grow_grow]
      exact run_bind_ok hremember

theorem checksPhase_reserved {constant : Reserved} (hfresh : system.reserved? constant = none) :
    (reserved constant : Stepwise F Nat).ChecksPhase system := by
  intro refusal hrefused
  rw [reserved, run_bind_ok (run_get _), System.reserved?_columns, hfresh]
  exact run_bind_error (checksPhase_newVariable _ refusal hrefused)

/-! ### Variables with a row -/

theorem checksPhase_define (value : Element F) (gate : Value → Stepwise F Nat) :
    (define value gate).ChecksPhase system :=
  (checksPhase_newVariable _).bind _

/-- The row of a new variable is added: its other wires still name what they named. -/
theorem run_define (hbuilding : system.Building) {w1 w2 w3 w4 : Value}
    {f1 f2 f3 f4 : Nat} (hfound : List.Forall₂ system.Names [w1, w2, w3, w4] [f1, f2, f3, f4])
    (value : Element F) (sels : Selectors (Element F)) :
    (define value fun output =>
        pushRow (.list [w1, w2, w3, w4, output]) sels).run.run system.columns =
      (.ok system.numVars,
        (system.grow [value] [⟨⟨f1, f2, f3, f4, system.numVars⟩, sels⟩]).columns) := by
  have hle : system.numVars ≤ (system.grow [value] []).numVars := Nat.le_succ _
  have houtput : (system.grow [value] []).Names (.ofNat system.numVars) system.numVars :=
    System.names_ofNat (Nat.lt_succ_self _)
  obtain _ | ⟨h1, _ | ⟨h2, _ | ⟨h3, _ | ⟨h4, -⟩⟩⟩⟩ := hfound
  have hrow := run_pushRow (hbuilding.grow [value] []) ⟨w1, w2, w3, w4, .ofNat system.numVars⟩
    ⟨f1, f2, f3, f4, system.numVars⟩ (.cons (h1.mono hle) (.cons (h2.mono hle)
      (.cons (h3.mono hle) (.cons (h4.mono hle) (.cons houtput .nil))))) sels
  rw [define, run_bind_ok (run_newVariable hbuilding value)]
  refine (run_bind_ok hrow).trans ?_
  rw [System.grow_grow]
  rfl

theorem run_define_pushBinary (hbuilding : system.Building) {left right : Value} {l r : Nat}
    (hleft : system.Names left l) (hright : system.Names right r) (value : Element F)
    (sels : Selectors (Element F)) :
    (define value (pushBinary sels left right)).run.run system.columns =
      (.ok system.numVars,
        (system.grow [value] [⟨⟨l, r, 0, 0, system.numVars⟩, sels⟩]).columns) :=
  run_define hbuilding (.cons hleft (.cons hright (.cons hleft.zero (.cons hleft.zero .nil)))) value
    sels

theorem run_combine (hbuilding : system.Building) {left right : Value} {l r : Nat}
    (hleft : system.Names left l) (hright : system.Names right r)
    (operation : Element F → Element F → Element F) (sels : Selectors (Element F)) :
    (combine operation (pushBinary sels) left right).run.run system.columns =
      (.ok system.numVars, (system.grow [operation (system.stored l) (system.stored r)]
        [⟨⟨l, r, 0, 0, system.numVars⟩, sels⟩]).columns) := by
  rw [combine, run_bind_ok (run_witnessValue_of_names hbuilding hleft),
    run_bind_ok (run_witnessValue_of_names hbuilding hright)]
  exact run_define_pushBinary hbuilding hleft hright _ sels

theorem run_sub (hbuilding : system.Building) {left right : Value} {l r : Nat}
    (hleft : system.Names left l) (hright : system.Names right r) :
    (sub left right).run.run system.columns =
      (.ok system.numVars, (system.define (.difference l r)).columns) := by
  rw [sub, insertSubGate_eq]
  exact run_combine hbuilding hleft hright _ _

theorem run_mul (hbuilding : system.Building) {left right : Value} {l r : Nat}
    (hleft : system.Names left l) (hright : system.Names right r) :
    (mul left right).run.run system.columns =
      (.ok system.numVars, (system.define (.product l r)).columns) := by
  rw [mul, insertMulGate_eq]
  exact run_combine hbuilding hleft hright _ _

theorem run_define_insertLinearGate (hbuilding : system.Building)
    {inputs w1 w2 w3 w4 : Value} {f1 f2 f3 f4 : Nat}
    (hinputs : inputs.entries = .ok [w1, w2, w3, w4])
    (hfound : List.Forall₂ system.Names [w1, w2, w3, w4] [f1, f2, f3, f4])
    (value e1 e2 e3 e4 : Element F) :
    (define value fun output => insertLinearGate inputs output (.element e1) (.element e2)
        (.element e3) (.element e4)).run.run system.columns =
      (.ok system.numVars,
        (system.grow [value] [.linear f1 f2 f3 f4 system.numVars e1 e2 e3 e4]).columns) := by
  simp only [insertLinearGate_eq hinputs (Value.toElement_element e1) (Value.toElement_element e2)
    (Value.toElement_element e3) (Value.toElement_element e4)]
  exact run_define hbuilding hfound value _

theorem run_linearCombine (hbuilding : system.Building)
    {inputs q1 q2 q3 q4 w1 w2 w3 w4 : Value} {f1 f2 f3 f4 : Nat} {e1 e2 e3 e4 : Element F}
    (hinputs : inputs.entries = .ok [w1, w2, w3, w4])
    (h1 : q1.toElement F = .ok e1) (h2 : q2.toElement F = .ok e2)
    (h3 : q3.toElement F = .ok e3) (h4 : q4.toElement F = .ok e4)
    (hfound : List.Forall₂ system.Names [w1, w2, w3, w4] [f1, f2, f3, f4]) :
    (linearCombine inputs q1 q2 q3 q4).run.run system.columns =
      (.ok system.numVars, (system.define (.linear f1 f2 f3 f4 e1 e2 e3 e4)).columns) := by
  have hdefine := run_define_insertLinearGate hbuilding hinputs hfound
  obtain _ | ⟨n1, _ | ⟨n2, _ | ⟨n3, _ | ⟨n4, -⟩⟩⟩⟩ := hfound
  rw [linearCombine, run_bind_ok (run_entries hinputs _)]
  simp only
  rw [run_bind_ok (run_element h1 _), run_bind_ok (run_element h2 _),
    run_bind_ok (run_element h3 _), run_bind_ok (run_element h4 _),
    run_bind_ok (run_witnessValue_of_names hbuilding n1),
    run_bind_ok (run_witnessValue_of_names hbuilding n2),
    run_bind_ok (run_witnessValue_of_names hbuilding n3),
    run_bind_ok (run_witnessValue_of_names hbuilding n4)]
  exact hdefine _ _ _ _ _

/-! ### Equality flags -/

theorem run_differenceFlags (hsystem : system.WellFormed) (hbuilding : system.Building)
    {left right : Nat} (hleft : left < system.numVars) (hright : right < system.numVars) :
    (differenceFlags system.numVars).run.run (system.define (.difference left right)).columns =
      (.ok ⟨⟨system.equalFlag left right⟩, ⟨system.numVars + 2⟩⟩,
        (system.addFlags left right).columns) := by
  have hflag := system.numVars_add_three_le_equalFlag left right
  have hzeroVar := (hsystem.compare hleft hright).reservedIndex_lt .zero
  have hle := (system.compare left right).numVars_le_reserve .zero
  rw [System.numVars_compare] at hle
  -- every stage is still being built
  have hseparated : (system.define (.difference left right)).Building := hbuilding.grow _ _
  have hadded := hseparated.grow [(system.stored left - system.stored right)⁻¹] []
  have hinverted : (system.invertDifference left right).Building := hadded.grow _ _
  have hreserved : ((system.invertDifference left right).reserve .one).Building :=
    ((hsystem.invertDifference hleft hright).reserve .one).building (by
      rw [System.phase_reserve, hinverted.phase])
  have hcompared : (system.compare left right).Building := hreserved.grow _ _
  have hlast : ((system.compare left right).reserve .zero).Building :=
    ((hsystem.compare hleft hright).reserve .zero).building (by
      rw [System.phase_reserve, hcompared.phase])
  have hvalue := run_witnessValue_of_names hseparated
    (System.names_ofNat (Nat.lt_succ_self system.numVars))
  rw [System.stored_define_self hbuilding.length_witness] at hvalue
  have hinverse := run_newVariable hseparated (system.stored left - system.stored right)⁻¹
  have hproduct := run_mul hadded
    (System.names_ofNat (show system.numVars < system.numVars + 2 by omega))
    (System.names_ofNat (show system.numVars + 1 < system.numVars + 2 by omega))
  have hone := run_reserved .one fun _ => hinverted
  have hequal := run_sub hreserved
    (System.names_ofNat ((hsystem.invertDifference hleft hright).reservedIndex_lt .one))
    (System.names_ofNat (show system.numVars + 2 < system.equalFlag left right by omega))
  have hzero := run_reserved .zero fun _ => hcompared
  have hrow := run_pushBinary hlast
    (System.names_ofNat (show system.numVars < _ by omega))
    (System.names_ofNat (show system.equalFlag left right < _ by omega))
    (System.names_ofNat hzeroVar) (.product : Selectors (Element F))
  rw [differenceFlags, run_bind_ok hvalue]
  refine (run_bind_ok hinverse).trans ((run_bind_ok hproduct).trans ?_)
  refine (run_bind_ok hone).trans ((run_bind_ok hequal).trans ?_)
  exact (run_bind_ok hzero).trans (run_bind_ok hrow)

/-! ### Range checks -/

theorem run_newVariables (hbuilding : system.Building) (values : List (Element F)) :
    (values.mapM fun value => newVariable (.element value) :
        Stepwise F (List Nat)).run.run system.columns =
      (.ok (List.range' system.numVars values.length), (system.grow values []).columns) := by
  induction values generalizing system with
  | nil =>
      rw [System.grow_nil]
      rfl
  | cons value values ih =>
      rw [List.mapM_cons, run_bind_ok (run_newVariable hbuilding value),
        run_bind_ok (ih (hbuilding.grow _ _)), System.grow_grow]
      rfl

theorem run_booleanGates (hbuilding : system.Building) {digits : List Nat}
    (hdigits : ∀ digit ∈ digits, digit < system.numVars) :
    (digits.forM fun digit => do
      let _ ← insertBooleanGate (.ofNat digit) : Stepwise F Unit).run.run system.columns =
        (.ok (), (system.grow [] (digits.map .boolean)).columns) := by
  induction digits generalizing system with
  | nil =>
      rw [List.map_nil, System.grow_nil]
      rfl
  | cons digit digits ih =>
      rw [List.forall_mem_cons] at hdigits
      have hgrown : (system.grow [] [.boolean digit]).Building := hbuilding.grow _ _
      have hgate : (do
          let _ ← insertBooleanGate (.ofNat digit) : Stepwise F Unit).run.run system.columns =
          (.ok (), (system.grow [] [.boolean digit]).columns) :=
        run_bind_ok (run_insertBooleanGate hbuilding (System.names_ofNat hdigits.1))
      refine (run_bind_ok hgate).trans ?_
      rw [ih hgrown hdigits.2, System.grow_grow]
      rfl

theorem run_recompose (hbuilding : system.Building) {checked : Value} {found : Nat}
    (hchecked : system.Names checked found) {accumulator : Nat}
    (haccumulator : accumulator < system.numVars) {digits : List Nat}
    (hdigits : ∀ digit ∈ digits, digit < system.numVars) :
    (recompose checked accumulator digits).run.run system.columns =
      (.ok (), (system.grow
        (recomposeValues (system.stored accumulator) (digits.map system.stored))
        (recomposeRows found accumulator system.numVars digits)).columns) := by
  have hlength := hbuilding.length_witness
  fun_induction recompose (F := F) checked accumulator digits generalizing system with
  | case1 accumulator b3 b2 b1 b0 rest ih =>
      rw [List.forall_mem_cons, List.forall_mem_cons, List.forall_mem_cons] at hdigits
      obtain ⟨h3, h2, h1, hrest⟩ := hdigits
      have hnext := run_linearCombine hbuilding (Value.entries_list _)
        (show (Value.int 8).toElement F = .ok (.ofNat F 8) from rfl)
        (show (Value.int 4).toElement F = .ok (.ofNat F 4) from rfl)
        (show (Value.int 2).toElement F = .ok (.ofNat F 2) from rfl)
        (show (Value.int 1).toElement F = .ok 1 from rfl)
        (.cons (System.names_ofNat haccumulator) (.cons (System.names_ofNat h3)
          (.cons (System.names_ofNat h2) (.cons (System.names_ofNat h1) .nil))))
      generalize hformula : (.linear accumulator b3 b2 b1 (.ofNat F 8) (.ofNat F 4) (.ofNat F 2) 1 :
        Formula F) = formula at hnext
      have hdefined : (system.define formula).Building := hbuilding.grow _ _
      have hle : system.numVars ≤ (system.define formula).numVars := Nat.le_succ _
      have hstored : (b0 :: rest).map (system.define formula).stored =
          (b0 :: rest).map system.stored :=
        List.map_congr_left fun digit hdigit =>
          System.stored_define_of_lt hlength formula (hrest digit hdigit)
      have hrecomposed := ih system.numVars hdefined (hchecked.mono hle) (Nat.lt_succ_self _)
        (fun digit hdigit => (hrest digit hdigit).trans_le hle) hdefined.length_witness
      rw [hstored, System.stored_define_self hlength] at hrecomposed
      rw [run_bind_ok hnext, hrecomposed, System.define, System.grow_grow, ← hformula]
      rfl
  | case2 accumulator b2 b1 b0 =>
      simp only [List.forall_mem_cons] at hdigits
      obtain ⟨h2, h1, h0, -⟩ := hdigits
      exact run_bind_ok (run_insertLinearGate hbuilding rfl rfl rfl rfl
        (.cons (System.names_ofNat haccumulator) (.cons (System.names_ofNat h2)
          (.cons (System.names_ofNat h1) (.cons (System.names_ofNat h0) (.cons hchecked .nil))))))
  | case3 accumulator b1 b0 =>
      simp only [List.forall_mem_cons] at hdigits
      obtain ⟨h1, h0, -⟩ := hdigits
      exact run_bind_ok (run_insertLinearGate hbuilding rfl rfl rfl rfl
        (.cons (System.names_ofNat haccumulator) (.cons (System.names_ofNat h1)
          (.cons (System.names_ofNat h0) (.cons hchecked.zero (.cons hchecked .nil))))))
  | case4 accumulator b0 =>
      have h0 := List.forall_mem_singleton.mp hdigits
      exact run_bind_ok (run_insertLinearGate hbuilding rfl rfl rfl rfl
        (.cons (System.names_ofNat haccumulator) (.cons (System.names_ofNat h0)
          (.cons hchecked.zero (.cons hchecked.zero (.cons hchecked .nil))))))
  | case5 => exact Prod.ext rfl (congrArg System.columns system.grow_nil.symm)

theorem checksPhase_binaryDigits (checked : Value) {values : List (Element F)}
    (hvalues : values ≠ []) : (binaryDigits checked values).ChecksPhase system := by
  obtain ⟨value, rest, rfl⟩ := List.exists_cons_of_ne_nil hvalues
  rw [binaryDigits, List.mapM_cons, bind_assoc]
  exact (checksPhase_newVariable _).bind _

theorem run_binaryDigits (hbuilding : system.Building) {index : Value} {checked : Nat}
    (hchecked : system.Names index checked) (count : Nat) :
    (binaryDigits index (Element.digits F (system.stored checked).val count)).run.run
        system.columns =
      (.ok ((List.range' system.numVars count).map .mk),
        (system.addDigits checked count).columns) := by
  rw [System.addDigits, digitRows, digitValues]
  generalize hvalues : Element.digits F (system.stored checked).val count = values
  obtain rfl : values.length = count := by rw [← hvalues, Element.length_digits]
  have hnew : ∀ index ∈ List.range' system.numVars values.length,
      index < system.numVars + values.length := fun index hindex =>
    (List.mem_range'_1.mp hindex).2
  generalize hlater : system.grow values ((List.range' system.numVars values.length).map .boolean) =
    later
  have hlaterBuilding : later.Building := hlater ▸ hbuilding.grow _ _
  have hreverse : values.reverse =
      (List.range' system.numVars values.length).reverse.map later.stored := by
    rw [List.map_reverse, ← hlater, System.map_stored_grow hbuilding.length_witness]
  rw [hreverse, binaryDigits, run_bind_ok (run_newVariables hbuilding values),
    run_bind_ok (run_booleanGates (hbuilding.grow _ _) hnew), System.grow_grow, List.append_nil,
    List.nil_append, hlater]
  cases htop : (List.range' system.numVars values.length).reverse with
  | nil =>
      simp only [List.map_nil, List.append_nil]
      rw [hlater]
      rfl
  | cons top rest =>
      have hlt : ∀ index ∈ top :: rest, index < later.numVars := by
        intro index hindex
        rw [← htop, List.mem_reverse] at hindex
        rw [← hlater]
        exact hnew index hindex
      rw [List.forall_mem_cons] at hlt
      have hrecomposed := run_recompose hlaterBuilding
        (hchecked.mono (hlater ▸ Nat.le_add_right _ _)) hlt.1 hlt.2
      simp only [List.map_cons]
      refine (run_bind_ok hrecomposed).trans ?_
      rw [← hlater, System.grow_grow]
      rfl

end Stepwise

end Plonkish
