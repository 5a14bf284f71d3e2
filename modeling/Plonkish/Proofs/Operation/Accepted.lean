import Plonkish.Proofs.Operation.Settled

/-!
# Accepted operations

An operation that is not refused found every argument to be what it has to be.  The
relation `Accepted` says for each operation what its plan is then, and every property
of accepted operations is read off its cases.
-/

namespace Plonkish

variable {F : BaseField}

namespace System

/-- The argument is the index of a variable of the system. -/
def Names (system : System F) (index : Value) (found : Nat) : Prop :=
  index.index? = some (found : Int) ∧ found < system.numVars

theorem resolve_eq_ok_iff {system : System F} {role : IndexRole} {index : Value} {found : Nat} :
    system.resolve role index = .ok found ↔ system.Names index found := by
  rw [resolve, resolveIndex, Names]
  cases hindex : index.index? with
  | none => exact ⟨nofun, nofun⟩
  | some number =>
      by_cases hnumber : 0 ≤ number ∧ number < system.numVars
      · simp only [if_pos hnumber, Except.ok.injEq, Option.some.injEq]
        omega
      · simp only [if_neg hnumber, reduceCtorEq, Option.some.injEq, false_iff]
        omega

theorem Names.mono {system later : System F} {index : Value} {found : Nat}
    (hnames : system.Names index found) (hle : system.numVars ≤ later.numVars) :
    later.Names index found :=
  ⟨hnames.1, hnames.2.trans_le hle⟩

theorem names_ofNat {system : System F} {index : Nat} (hindex : index < system.numVars) :
    system.Names (.ofNat index) index :=
  ⟨rfl, hindex⟩

/-- If anything is a variable, so is variable 0. -/
theorem Names.zero {system : System F} {index : Value} {found : Nat}
    (hnames : system.Names index found) : system.Names (.int 0) 0 :=
  names_ofNat (Nat.zero_lt_of_lt hnames.2)

theorem Names.resolve_eq {system : System F} {index : Value} {found : Nat}
    (hindex : system.Names index found) (role : IndexRole) :
    system.resolve role index = .ok found :=
  resolve_eq_ok_iff.mpr hindex

theorem findOperand_eq_ok_iff_names {system : System F} {index : Value} {found : Nat} :
    system.findOperand index = .ok found ↔
      system.phase ≠ .proving ∧ system.Names index found := by
  rw [findOperand_eq_ok_iff, resolve_eq_ok_iff]

theorem Names.findOperand_eq {system : System F} {index : Value} {found : Nat}
    (hindex : system.Names index found) (hphase : system.phase = .building) :
    system.findOperand index = .ok found :=
  findOperand_eq_ok_iff_names.mpr ⟨by rw [hphase]; exact nofun, hindex⟩

end System

/-- The operation is accepted, and the plan says what it does. -/
inductive Accepted (system : System F) : Operation → Plan F → Prop
  | newVariable {value : Value} {element : Element F} (hphase : system.phase = .building)
      (hvalue : value.toElement F = .ok element) :
      Accepted system (.newVariable value)
        ⟨.inputs [element], fun before => .index before.numVars⟩
  | addVariables {given : Value} {values : List (Element F)} (hphase : system.phase = .building)
      (hvalues : given.elements F = .ok values) :
      Accepted system (.addVariables given)
        ⟨.inputs values, fun before => .indices (List.range' before.numVars values.length)⟩
  | witnessValue {index : Value} {found : Nat} (hindex : system.Names index found) :
      Accepted system (.witnessValue index) ⟨.keep, fun before => .element (before.stored found)⟩
  | zeroVariable (hphase : system.reserved? .zero = none → system.phase = .building) :
      Accepted system .zeroVariable
        ⟨.reserve .zero, fun before => .index (before.reservedIndex .zero)⟩
  | oneVariable (hphase : system.reserved? .one = none → system.phase = .building) :
      Accepted system .oneVariable
        ⟨.reserve .one, fun before => .index (before.reservedIndex .one)⟩
  | insertGate {wires selectors : Value} {given : Wires Value} {givenSels : Selectors Value}
      {found : Wires Nat} {sels : Selectors (Element F)} (hphase : system.phase = .building)
      (hselectors : selectors.entries = .ok givenSels.toList)
      (hsels : givenSels.mapM (Value.toElement F) = .ok sels)
      (hwires : wires.entries = .ok given.toList)
      (hfound : List.Forall₂ system.Names given.toList found.toList) :
      Accepted system (.insertGate wires selectors) (.addRow ⟨found, sels⟩)
  | insertLinearGate {inputs output q1 q2 q3 q4 w1 w2 w3 w4 : Value} {f1 f2 f3 f4 fo : Nat}
      {e1 e2 e3 e4 : Element F} (hphase : system.phase = .building)
      (hinputs : inputs.entries = .ok [w1, w2, w3, w4])
      (h1 : q1.toElement F = .ok e1) (h2 : q2.toElement F = .ok e2)
      (h3 : q3.toElement F = .ok e3) (h4 : q4.toElement F = .ok e4)
      (hfound : List.Forall₂ system.Names [w1, w2, w3, w4, output] [f1, f2, f3, f4, fo]) :
      Accepted system (.insertLinearGate inputs output q1 q2 q3 q4)
        (.addRow (.linear f1 f2 f3 f4 fo e1 e2 e3 e4))
  | insertAddGate {left right output : Value} {l r o : Nat} (hphase : system.phase = .building)
      (hfound : List.Forall₂ system.Names [left, right, output] [l, r, o]) :
      Accepted system (.insertAddGate left right output) (.addRow (.sum l r o))
  | insertSubGate {left right output : Value} {l r o : Nat} (hphase : system.phase = .building)
      (hfound : List.Forall₂ system.Names [left, right, output] [l, r, o]) :
      Accepted system (.insertSubGate left right output) (.addRow (.difference l r o))
  | insertMulGate {left right output : Value} {l r o : Nat} (hphase : system.phase = .building)
      (hfound : List.Forall₂ system.Names [left, right, output] [l, r, o]) :
      Accepted system (.insertMulGate left right output) (.addRow (.product l r o))
  | insertBooleanGate {index : Value} {found : Nat} (hphase : system.phase = .building)
      (hindex : system.Names index found) :
      Accepted system (.insertBooleanGate index)
        ⟨.row (.boolean found), fun _ => .boolVar ⟨found⟩⟩
  | insertConstantGate {index constant : Value} {found : Nat} {value : Element F}
      (hphase : system.phase = .building) (hconstant : constant.toElement F = .ok value)
      (hindex : system.Names index found) :
      Accepted system (.insertConstantGate index constant) (.addRow (.constant found value))
  | preparePublicInput {index : Value} {found : Nat} (hphase : system.phase = .building)
      (hindex : system.Names index found) :
      Accepted system (.preparePublicInput index)
        ⟨.publicInput found, fun before => .index before.size⟩
  | pad (hphase : system.phase ≠ .proving) : Accepted system .pad ⟨.pad, fun _ => .done⟩
  | takeWitness (hphase : system.phase ≠ .proving) :
      Accepted system .takeWitness ⟨.takeWitness, fun before => .witness before.witness⟩
  | linearCombine {inputs q1 q2 q3 q4 w1 w2 w3 w4 : Value} {f1 f2 f3 f4 : Nat}
      {e1 e2 e3 e4 : Element F} (hphase : system.phase = .building)
      (hinputs : inputs.entries = .ok [w1, w2, w3, w4])
      (hfound : List.Forall₂ system.Names [w1, w2, w3, w4] [f1, f2, f3, f4]) :
      Accepted system (.linearCombine inputs q1 q2 q3 q4)
        (.define (.linear f1 f2 f3 f4 e1 e2 e3 e4))
  | add {left right : Value} {l r : Nat} (hphase : system.phase = .building)
      (hfound : List.Forall₂ system.Names [left, right] [l, r]) :
      Accepted system (.add left right) (.define (.sum l r))
  | sub {left right : Value} {l r : Nat} (hphase : system.phase = .building)
      (hfound : List.Forall₂ system.Names [left, right] [l, r]) :
      Accepted system (.sub left right) (.define (.difference l r))
  | mul {left right : Value} {l r : Nat} (hphase : system.phase = .building)
      (hfound : List.Forall₂ system.Names [left, right] [l, r]) :
      Accepted system (.mul left right) (.define (.product l r))
  | equal {left right : Value} {l r : Nat} (hphase : system.phase = .building)
      (hfound : List.Forall₂ system.Names [left, right] [l, r]) :
      Accepted system (.equal left right) ⟨.equation l r, fun _ => .done⟩
  | select {var0 var1 bit : Value} {v0 v1 b : Nat} (hphase : system.phase = .building)
      (hfound : List.Forall₂ system.Names [bit, var0, var1] [b, v0, v1]) :
      Accepted system (.select var0 var1 bit) (.define (.selection b v0 v1))
  | isEqual {left right : Value} {l r : Nat} (hphase : system.phase = .building)
      (hfound : List.Forall₂ system.Names [left, right] [l, r]) :
      Accepted system (.isEqual left right) (.flags l r fun flags => .boolVar flags.equal)
  | isNotEqual {left right : Value} {l r : Nat} (hphase : system.phase = .building)
      (hfound : List.Forall₂ system.Names [left, right] [l, r]) :
      Accepted system (.isNotEqual left right) (.flags l r fun flags => .boolVar flags.notEqual)
  | isEqualOrNotEqual {left right : Value} {l r : Nat} (hphase : system.phase = .building)
      (hfound : List.Forall₂ system.Names [left, right] [l, r]) :
      Accepted system (.isEqualOrNotEqual left right) (.flags l r .flags)
  | rangeCheck {index count : Value} {checked : Nat} {number : Int}
      (hphase : system.phase = .building) (hindex : system.Names index checked)
      (hcount : count.toNumber = .ok number) (htwo : 2 ≤ number)
      (hfits : CanExtend (number - (8 * F.byteLength : Nat))) :
      Accepted system (.rangeCheck index count) ⟨.digits checked number.toNat,
        fun before => .boolVars ((List.range' before.numVars number.toNat).map .mk)⟩

namespace System

variable {system : System F} {plan : Plan F} {left right output : Value}

theorem planBinaryRow_eq_ok {row : Nat → Nat → Nat → Row F}
    (hplan : system.planBinaryRow row left right output = .ok plan) :
    system.phase = .building ∧ ∃ l r o,
      List.Forall₂ system.Names [left, right, output] [l, r, o] ∧ plan = .addRow (row l r o) := by
  simp only [planBinaryRow, bind_eq_ok_iff, checkBuilding_eq_ok_iff, resolve_eq_ok_iff] at hplan
  obtain ⟨_, hphase, l, hleft, r, hright, o, houtput, hplan⟩ := hplan
  cases hplan
  exact ⟨hphase, l, r, o, .cons hleft (.cons hright (.cons houtput .nil)), rfl⟩

theorem planBinary_eq_ok {combined : Nat → Nat → Plan F}
    (hplan : system.planBinary combined left right = .ok plan) :
    system.phase = .building ∧ ∃ l r,
      List.Forall₂ system.Names [left, right] [l, r] ∧ plan = combined l r := by
  simp only [planBinary, bind_eq_ok_iff, checkBuilding_eq_ok_iff,
    findOperand_eq_ok_iff_names] at hplan
  obtain ⟨l, ⟨_, hleft⟩, r, ⟨_, hright⟩, _, hphase, hplan⟩ := hplan
  cases hplan
  exact ⟨hphase, l, r, .cons hleft (.cons hright .nil), rfl⟩

theorem planReserve_eq_ok {constant : Reserved}
    (hplan : system.planReserve constant = .ok plan) :
    (system.reserved? constant = none → system.phase = .building) ∧
      plan = ⟨.reserve constant, fun before => .index (before.reservedIndex constant)⟩ := by
  rw [planReserve] at hplan
  by_cases hfresh : (system.reserved? constant).isNone
  · rw [if_pos hfresh] at hplan
    obtain ⟨_, hphase, hplan⟩ := bind_eq_ok_iff.mp hplan
    cases hplan
    exact ⟨fun _ => checkBuilding_eq_ok_iff.mp hphase, rfl⟩
  · rw [if_neg hfresh] at hplan
    cases hplan
    exact ⟨fun hnone => absurd (Option.isNone_iff_eq_none.mpr hnone) hfresh, rfl⟩

/-! ### Plans that are made while building -/

section Building

variable (hphase : system.phase = .building)

include hphase

theorem checkBuilding_of_building : system.checkBuilding = .ok () :=
  checkBuilding_eq_ok_iff.mpr hphase

theorem planBinaryRow_of_names {l r o : Nat}
    (hfound : List.Forall₂ system.Names [left, right, output] [l, r, o])
    (row : Nat → Nat → Nat → Row F) :
    system.planBinaryRow row left right output = .ok (.addRow (row l r o)) := by
  simp only [List.forall₂_cons] at hfound
  obtain ⟨hl, hr, ho, _⟩ := hfound
  rw [planBinaryRow, checkBuilding_of_building hphase, hl.resolve_eq, hr.resolve_eq,
    ho.resolve_eq]
  rfl

theorem planBinary_of_names {l r : Nat}
    (hfound : List.Forall₂ system.Names [left, right] [l, r])
    (combined : Nat → Nat → Plan F) :
    system.planBinary combined left right = .ok (combined l r) := by
  simp only [List.forall₂_cons] at hfound
  obtain ⟨hl, hr, _⟩ := hfound
  rw [planBinary, hl.findOperand_eq hphase, hr.findOperand_eq hphase,
    checkBuilding_of_building hphase]
  rfl

theorem planReserve_of_building (constant : Reserved) :
    system.planReserve constant =
      .ok ⟨.reserve constant, fun before => .index (before.reservedIndex constant)⟩ := by
  rw [planReserve, checkBuilding_of_building hphase]
  split <;> rfl

end Building

end System

/-- A plan is made only for an operation whose arguments are as they have to be. -/
theorem accepted_of_plan {system : System F} {operation : Operation} {plan : Plan F}
    (hplan : operation.plan system = .ok plan) : Accepted system operation plan := by
  cases operation with
  | newVariable value =>
      simp only [Operation.plan, bind_eq_ok_iff, System.checkBuilding_eq_ok_iff] at hplan
      obtain ⟨_, hphase, element, hvalue, hplan⟩ := hplan
      cases hplan
      exact .newVariable hphase hvalue
  | addVariables values =>
      simp only [Operation.plan, bind_eq_ok_iff, System.checkBuilding_eq_ok_iff] at hplan
      obtain ⟨_, hphase, elements, hvalues, hplan⟩ := hplan
      cases hplan
      exact .addVariables hphase hvalues
  | witnessValue index =>
      simp only [Operation.plan, bind_eq_ok_iff, System.findOperand_eq_ok_iff_names] at hplan
      obtain ⟨found, ⟨_, hindex⟩, hplan⟩ := hplan
      cases hplan
      exact .witnessValue hindex
  | zeroVariable =>
      obtain ⟨hphase, rfl⟩ := System.planReserve_eq_ok hplan
      exact .zeroVariable hphase
  | oneVariable =>
      obtain ⟨hphase, rfl⟩ := System.planReserve_eq_ok hplan
      exact .oneVariable hphase
  | insertGate wires selectors =>
      obtain ⟨selectorEntries, hselectors, hplan⟩ := bind_eq_ok_iff.mp hplan
      cases hsels : Selectors.ofList? selectorEntries with
      | none =>
          rw [hsels] at hplan
          cases hplan
      | some givenSels =>
          rw [hsels] at hplan
          simp only [bind_eq_ok_iff, System.checkBuilding_eq_ok_iff] at hplan
          obtain ⟨sels, hcoerced, _, hphase, wireEntries, hwires, hplan⟩ := hplan
          cases hgiven : Wires.ofList? wireEntries with
          | none =>
              rw [hgiven] at hplan
              cases hplan
          | some given =>
              rw [hgiven] at hplan
              simp only [bind_eq_ok_iff, System.resolve_eq_ok_iff] at hplan
              obtain ⟨w1, h1, w2, h2, w3, h3, w4, h4, wo, ho, hplan⟩ := hplan
              cases hplan
              rw [Selectors.ofList?_eq_some_iff.mp hsels] at hselectors
              rw [Wires.ofList?_eq_some_iff.mp hgiven] at hwires
              exact .insertGate hphase hselectors hcoerced hwires
                (.cons h1 (.cons h2 (.cons h3 (.cons h4 (.cons ho .nil)))))
  | insertLinearGate inputs output q1 q2 q3 q4 =>
      obtain ⟨entries, hinputs, hplan⟩ := bind_eq_ok_iff.mp hplan
      rcases entries with _ | ⟨w1, _ | ⟨w2, _ | ⟨w3, _ | ⟨w4, _ | ⟨w5, rest⟩⟩⟩⟩⟩
      case cons.cons.cons.cons.nil =>
          simp only [bind_eq_ok_iff, System.checkBuilding_eq_ok_iff,
            System.resolve_eq_ok_iff] at hplan
          obtain ⟨e1, hq1, e2, hq2, e3, hq3, e4, hq4, _, hphase, hplan⟩ := hplan
          obtain ⟨f1, h1, f2, h2, f3, h3, f4, h4, fo, ho, hplan⟩ := hplan
          cases hplan
          exact .insertLinearGate hphase hinputs hq1 hq2 hq3 hq4
            (.cons h1 (.cons h2 (.cons h3 (.cons h4 (.cons ho .nil)))))
      all_goals cases hplan
  | insertAddGate left right output =>
      obtain ⟨hphase, _, _, _, hfound, rfl⟩ := System.planBinaryRow_eq_ok hplan
      exact .insertAddGate hphase hfound
  | insertSubGate left right output =>
      obtain ⟨hphase, _, _, _, hfound, rfl⟩ := System.planBinaryRow_eq_ok hplan
      exact .insertSubGate hphase hfound
  | insertMulGate left right output =>
      obtain ⟨hphase, _, _, _, hfound, rfl⟩ := System.planBinaryRow_eq_ok hplan
      exact .insertMulGate hphase hfound
  | insertBooleanGate index =>
      simp only [Operation.plan, bind_eq_ok_iff, System.checkBuilding_eq_ok_iff,
        System.resolve_eq_ok_iff] at hplan
      obtain ⟨_, hphase, found, hindex, hplan⟩ := hplan
      cases hplan
      exact .insertBooleanGate hphase hindex
  | insertConstantGate index constant =>
      simp only [Operation.plan, bind_eq_ok_iff, System.checkBuilding_eq_ok_iff,
        System.resolve_eq_ok_iff] at hplan
      obtain ⟨value, hconstant, _, hphase, found, hindex, hplan⟩ := hplan
      cases hplan
      exact .insertConstantGate hphase hconstant hindex
  | preparePublicInput index =>
      simp only [Operation.plan, bind_eq_ok_iff, System.checkBuilding_eq_ok_iff,
        System.resolve_eq_ok_iff] at hplan
      obtain ⟨_, hphase, found, hindex, hplan⟩ := hplan
      cases hplan
      exact .preparePublicInput hphase hindex
  | pad =>
      by_cases hphase : system.phase = .proving
      · simp only [Operation.plan, if_pos hphase] at hplan
        cases hplan
      · simp only [Operation.plan, if_neg hphase] at hplan
        by_cases hzero : system.numVars = 0 ∧ system.zeroVar?.isNone
        · rw [if_pos hzero] at hplan
          obtain ⟨_, _, hplan⟩ := bind_eq_ok_iff.mp hplan
          cases hplan
          exact .pad hphase
        · rw [if_neg hzero] at hplan
          cases hplan
          exact .pad hphase
  | takeWitness =>
      by_cases hphase : system.phase = .proving
      · simp only [Operation.plan, if_pos hphase] at hplan
        cases hplan
      · simp only [Operation.plan, if_neg hphase] at hplan
        cases hplan
        exact .takeWitness hphase
  | linearCombine inputs q1 q2 q3 q4 =>
      obtain ⟨entries, hinputs, hplan⟩ := bind_eq_ok_iff.mp hplan
      rcases entries with _ | ⟨w1, _ | ⟨w2, _ | ⟨w3, _ | ⟨w4, _ | ⟨w5, rest⟩⟩⟩⟩⟩
      case cons.cons.cons.cons.nil =>
          simp only [bind_eq_ok_iff, System.checkBuilding_eq_ok_iff,
            System.findOperand_eq_ok_iff_names] at hplan
          obtain ⟨e1, _, e2, _, e3, _, e4, _, hplan⟩ := hplan
          obtain ⟨f1, ⟨_, h1⟩, f2, ⟨_, h2⟩, f3, ⟨_, h3⟩, f4, ⟨_, h4⟩, _, hphase, hplan⟩ := hplan
          cases hplan
          exact .linearCombine hphase hinputs (.cons h1 (.cons h2 (.cons h3 (.cons h4 .nil))))
      all_goals cases hplan
  | add left right =>
      obtain ⟨hphase, _, _, hfound, rfl⟩ := System.planBinary_eq_ok hplan
      exact .add hphase hfound
  | sub left right =>
      obtain ⟨hphase, _, _, hfound, rfl⟩ := System.planBinary_eq_ok hplan
      exact .sub hphase hfound
  | mul left right =>
      obtain ⟨hphase, _, _, hfound, rfl⟩ := System.planBinary_eq_ok hplan
      exact .mul hphase hfound
  | equal left right =>
      obtain ⟨hphase, _, _, hfound, rfl⟩ := System.planBinary_eq_ok hplan
      exact .equal hphase hfound
  | select var0 var1 bit =>
      simp only [Operation.plan, bind_eq_ok_iff, System.checkBuilding_eq_ok_iff,
        System.findOperand_eq_ok_iff_names] at hplan
      obtain ⟨b, ⟨_, hbit⟩, v0, ⟨_, h0⟩, v1, ⟨_, h1⟩, _, hphase, hplan⟩ := hplan
      cases hplan
      exact .select hphase (.cons hbit (.cons h0 (.cons h1 .nil)))
  | isEqual left right =>
      obtain ⟨hphase, _, _, hfound, rfl⟩ := System.planBinary_eq_ok hplan
      exact .isEqual hphase hfound
  | isNotEqual left right =>
      obtain ⟨hphase, _, _, hfound, rfl⟩ := System.planBinary_eq_ok hplan
      exact .isNotEqual hphase hfound
  | isEqualOrNotEqual left right =>
      obtain ⟨hphase, _, _, hfound, rfl⟩ := System.planBinary_eq_ok hplan
      exact .isEqualOrNotEqual hphase hfound
  | rangeCheck index count =>
      obtain ⟨tooFew, hfew, hplan⟩ := bind_eq_ok_iff.mp hplan
      cases tooFew with
      | true => cases hplan
      | false =>
          simp only [Bool.false_eq_true, if_false, bind_eq_ok_iff, checkExtension_eq_ok_iff,
            System.checkBuilding_eq_ok_iff, System.findOperand_eq_ok_iff_names] at hplan
          obtain ⟨checked, ⟨_, hindex⟩, number, hcount, _, hfits, _, hphase, hplan⟩ := hplan
          cases hplan
          exact .rangeCheck hphase hindex hcount (le_of_isBelow_eq_false hcount hfew) hfits

namespace Accepted

variable {system : System F} {operation : Operation} {plan : Plan F}

theorem found_lt {given : List Value} {found : List Nat}
    (hfound : List.Forall₂ system.Names given found) : ∀ index ∈ found, index < system.numVars := by
  induction hfound with
  | nil => exact List.forall_mem_nil _
  | cons hindex _ ih => exact List.forall_mem_cons.mpr ⟨hindex.2, ih⟩

theorem wires_lt {row : Row F} {given : List Value} {first : Nat} {found : List Nat}
    (hfound : List.Forall₂ system.Names given (first :: found))
    (hwires : ∀ index ∈ row.wires.toList, index ∈ first :: found ∨ index = 0) :
    ∀ index ∈ row.wires.toList, index < system.numVars := by
  have hlt := found_lt hfound
  intro index hindex
  rcases hwires index hindex with hmem | rfl
  · exact hlt index hmem
  · exact Nat.zero_lt_of_lt (hlt first List.mem_cons_self)

/-- What an accepted operation does is legal. -/
theorem legal (haccepted : Accepted system operation plan) : plan.change.Legal system := by
  cases haccepted with
  | newVariable hphase | addVariables hphase => exact hphase
  | witnessValue => trivial
  | zeroVariable hphase | oneVariable hphase => exact hphase
  | insertGate hphase hselectors hsels hwires hfound => exact ⟨hphase, found_lt hfound⟩
  | insertLinearGate hphase hinputs h1 h2 h3 h4 hfound =>
      exact ⟨hphase, wires_lt hfound (by simp [Row.linear, Wires.toList])⟩
  | insertAddGate hphase hfound | insertSubGate hphase hfound | insertMulGate hphase hfound =>
      exact ⟨hphase, wires_lt hfound (by
        simp [Row.sum, Row.difference, Row.product, Row.linear, Wires.toList])⟩
  | insertBooleanGate hphase hindex =>
      exact ⟨hphase, wires_lt (.cons hindex .nil) (by
        simp [Row.boolean, Row.product, Wires.toList])⟩
  | insertConstantGate hphase hconstant hindex =>
      exact ⟨hphase, wires_lt (.cons hindex .nil) (by
        simp [Row.constant, Wires.replicate, Wires.toList])⟩
  | preparePublicInput hphase hindex => exact ⟨hphase, hindex.2⟩
  | pad hphase | takeWitness hphase => exact hphase
  | linearCombine hphase hinputs hfound => exact ⟨hphase, found_lt hfound⟩
  | add hphase hfound | sub hphase hfound | mul hphase hfound | select hphase hfound =>
      exact ⟨hphase, found_lt hfound⟩
  | equal hphase hfound | isEqual hphase hfound | isNotEqual hphase hfound
  | isEqualOrNotEqual hphase hfound =>
      have hlt := found_lt hfound
      exact ⟨hphase, hlt _ List.mem_cons_self, hlt _ (List.mem_cons_of_mem _ List.mem_cons_self)⟩
  | rangeCheck hphase hindex hcount htwo => exact ⟨hphase, hindex.2, by omega⟩

theorem change_ne_takeWitness (haccepted : Accepted system operation plan)
    (hoperation : operation ≠ .takeWitness) : plan.change ≠ .takeWitness := by
  intro hchange
  cases haccepted <;> cases hchange
  exact hoperation rfl

end Accepted

end Plonkish
