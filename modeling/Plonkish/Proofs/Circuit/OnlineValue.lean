import Plonkish.Circuit.OnlineValue
import Plonkish.Proofs.Circuit.Steps
import Plonkish.Proofs.Run.Calls
import Plonkish.Proofs.System.Padding

/-!
# The circuit for a formula in secret and public inputs

The six gates of the circuit leave the two secret and the two public inputs free and make
everything else a function of them.  So there is one accepted witness for each choice of
inputs, whatever values the circuit was built with, and it ends with the value of the formula.
-/

namespace Plonkish

variable {F : BaseField}

namespace OnlineValue

/-- What the arguments of the circuit stand for. -/
structure Numbers (F : BaseField) where
  x0 : Element F
  x1 : Element F
  y0 : Element F
  y1 : Element F

/-- Every argument has two entries that stand for elements. -/
structure StandsFor (circuit : OnlineValue) (numbers : Numbers F) : Prop where
  x0_eq : circuit.x.entry 0 >>= Value.toElement F = .ok numbers.x0
  x1_eq : circuit.x.entry 1 >>= Value.toElement F = .ok numbers.x1
  y0_eq : circuit.y.entry 0 >>= Value.toElement F = .ok numbers.y0
  y1_eq : circuit.y.entry 1 >>= Value.toElement F = .ok numbers.y1

/-- The values of all variables by the values of the inputs. -/
def trace (u0 u1 v0 v1 : Element F) : List (Element F) :=
  [u0, v0, u1, 4, u0 + v0, u1 + 4, (u0 + v0) * (u1 + 4), v1, u0 * v1,
    (u0 + v0) * (u1 + 4) + u0 * v1]

namespace Numbers

variable (numbers : Numbers F) (quotient : QuotientDomain)

/-! ### The system -/

/-- The inputs that the first factor and the second one need, and the number 4. -/
def entered : System F :=
  (System.empty F quotient).grow [numbers.x0, numbers.y0, numbers.x1, 4] []

def multiplied : System F :=
  (((numbers.entered quotient).define (.sum 0 1)).define (.sum 2 3)).define (.product 4 5)

/-- The formula with the last input, which is a variable only now. -/
def computed : System F :=
  (((numbers.multiplied quotient).grow [numbers.y1] []).define (.product 0 7)).define (.sum 6 8)

def constrained : System F :=
  (((numbers.computed quotient).grow [] [.constant 3 4]).bindPublic 1).bindPublic 7

def system : System F :=
  (numbers.constrained quotient).padded

@[simp]
theorem numVars_entered : (numbers.entered quotient).numVars = 4 := rfl

@[simp]
theorem numVars_multiplied : (numbers.multiplied quotient).numVars = 7 := rfl

@[simp]
theorem numVars_computed : (numbers.computed quotient).numVars = 10 := rfl

@[simp]
theorem numVars_constrained : (numbers.constrained quotient).numVars = 10 := rfl

theorem phase_constrained : (numbers.constrained quotient).phase = .building := rfl

theorem gates_constrained : (numbers.constrained quotient).gates =
    [.sum 0 1 4, .sum 2 3 5, .product 4 5 6, .product 0 7 8, .sum 6 8 9, .constant 3 4] := by
  rw [constrained, System.gates_bindPublic, System.gates_bindPublic]
  rfl

theorem witness_system : (numbers.system quotient).witness =
    trace numbers.x0 numbers.x1 numbers.y0 numbers.y1 := rfl

theorem wellFormed_constrained : (numbers.constrained quotient).WellFormed := by
  have hentered : (numbers.entered quotient).WellFormed :=
    (System.wellFormed_empty F quotient).grow_values _
  have hmultiplied : (numbers.multiplied quotient).WellFormed :=
    ((hentered.define (by simp [Formula.operands])).define (by simp [Formula.operands])).define
      (by simp [Formula.operands])
  have hcomputed : (numbers.computed quotient).WellFormed :=
    ((hmultiplied.grow_values _).define (by simp [Formula.operands])).define
      (by simp [Formula.operands])
  have hfixed : ((numbers.computed quotient).grow [] [.constant 3 4]).WellFormed :=
    hcomputed.grow_row (by simp [Row.constant, Wires.replicate, Wires.toList])
  exact (hfixed.bindPublic (by simp)).bindPublic (by simp [System.bindPublic])

theorem wellFormed_system : (numbers.system quotient).WellFormed :=
  (numbers.wellFormed_constrained quotient).padded nofun

theorem satisfied_system (assigned : Nat → Element F) :
    (numbers.system quotient).Satisfied assigned ↔
      assigned 4 = assigned 0 + assigned 1 ∧ assigned 5 = assigned 2 + assigned 3 ∧
      assigned 6 = assigned 4 * assigned 5 ∧ assigned 8 = assigned 0 * assigned 7 ∧
      assigned 9 = assigned 6 + assigned 8 ∧ assigned 3 = 4 := by
  have hvariables : (numbers.constrained quotient).numVars ≠ 0 := nofun
  rw [system, (numbers.wellFormed_constrained quotient).satisfied_padded,
    forall_prop_of_false hvariables, and_true, System.Satisfied, gates_constrained]
  simp only [List.forall_mem_cons, Row.holds_sum, Row.holds_product, Row.holds_constant,
    List.not_mem_nil, IsEmpty.forall_iff, implies_true, and_true]

/-- The system accepts the traces, each with its public inputs. -/
theorem accepts_iff {witness inputs : List (Element F)} :
    (numbers.system quotient).Accepts witness inputs ↔
      ∃ u0 u1 v0 v1, witness = trace u0 u1 v0 v1 ∧ inputs = [v0, v1] := by
  constructor
  · intro haccepts
    have hlength : witness.length = 10 := haccepts.length_eq
    have hinputs := haccepts.publicInputs_eq
    obtain ⟨h4, h5, h6, h8, h9, h3⟩ :=
      (numbers.satisfied_system quotient _).mp haccepts.satisfied
    match witness, hlength with
    | [u0, v0, u1, w3, w4, w5, w6, v1, w8, w9], _ =>
        obtain rfl : w3 = 4 := h3
        obtain rfl : w4 = u0 + v0 := h4
        obtain rfl : w5 = u1 + 4 := h5
        obtain rfl : w6 = (u0 + v0) * (u1 + 4) := h6
        obtain rfl : w8 = u0 * v1 := h8
        obtain rfl : w9 = (u0 + v0) * (u1 + 4) + u0 * v1 := h9
        exact ⟨u0, u1, v0, v1, rfl, hinputs⟩
  · rintro ⟨u0, u1, v0, v1, rfl, rfl⟩
    have hsatisfied := (numbers.satisfied_system quotient (assignment (trace u0 u1 v0 v1))).mpr
      ⟨rfl, rfl, rfl, rfl, rfl, rfl⟩
    exact ⟨rfl, hsatisfied, rfl⟩

theorem verify_iff {given givenInputs : Value} :
    (numbers.system quotient).matrix.verify given givenInputs = .ok () ↔
      ∃ u0 u1 v0 v1 : Element F, given.elements F = .ok (trace u0 u1 v0 v1) ∧
        givenInputs.elements F = .ok [v0, v1] := by
  simp only [System.verify_eq_ok_iff (numbers.wellFormed_system quotient), accepts_iff]
  constructor
  · rintro ⟨_, _, hgiven, hinputs, u0, u1, v0, v1, rfl, rfl⟩
    exact ⟨u0, u1, v0, v1, hgiven, hinputs⟩
  · rintro ⟨u0, u1, v0, v1, hgiven, hinputs⟩
    exact ⟨_, _, hgiven, hinputs, u0, u1, v0, v1, rfl, rfl⟩

end Numbers

/-! ### The circuit -/

/-- What is built once the variables that are entered first are there. -/
def finish (circuit : OnlineValue) (y0 : Value) (x0Var y0Var x1Var four : Nat) :
    Builder F (List Value) := do
  let s0 ← Builder.add (.ofNat x0Var) (.ofNat y0Var)
  let s1 ← Builder.add (.ofNat x1Var) (.ofNat four)
  let p0 ← Builder.mul (.ofNat s0) (.ofNat s1)
  let y1 ← Checked.ofExcept (circuit.y.entry 1)
  let y1Var ← Builder.newVariable y1
  let p1 ← Builder.mul (.ofNat x0Var) (.ofNat y1Var)
  let _ ← Builder.add (.ofNat p0) (.ofNat p1)
  let _ ← Builder.insertConstantGate (.ofNat four) (.int 4)
  let _ ← Builder.preparePublicInput (.ofNat y0Var)
  let _ ← Builder.preparePublicInput (.ofNat y1Var)
  Builder.pad
  return [y0, y1]

theorem build_eq (circuit : OnlineValue) :
    (circuit.build : Builder F (List Value)) = (do
      let x0 ← Checked.ofExcept (circuit.x.entry 0)
      let y0 ← Checked.ofExcept (circuit.y.entry 0)
      let x1 ← Checked.ofExcept (circuit.x.entry 1)
      let x0Var ← Builder.newVariable x0
      let y0Var ← Builder.newVariable y0
      let x1Var ← Builder.newVariable x1
      let four ← Builder.newVariable (.int 4)
      circuit.finish y0 x0Var y0Var x1Var four) := rfl

variable {circuit : OnlineValue} {numbers : Numbers F}

theorem run_entry {inputs found : Value} {position : Nat}
    (hfound : inputs.entry position = .ok found) (system : System F) :
    (Checked.ofExcept (inputs.entry position) : Builder F Value).run.run system =
      (.ok found, system) :=
  congrArg (·, system) hfound

theorem toElement_four : (Value.int 4).toElement F = .ok 4 :=
  congrArg Except.ok (Int.cast_ofNat 4)

/-- The gadgets grow the system as described, one after the other. -/
theorem run_finish {y0 y1 : Value} (hy1 : circuit.y.entry 1 = .ok y1)
    (hvalue : y1.toElement F = .ok numbers.y1) (quotient : QuotientDomain) :
    (circuit.finish y0 0 1 2 3).run.run (numbers.entered quotient) =
      (.ok [y0, y1], numbers.system quotient) := by
  have hs0 : (Builder.add (.ofNat 0) (.ofNat 1)).run.run (numbers.entered quotient) =
      (.ok 4, (numbers.entered quotient).define (.sum 0 1)) :=
    Builder.run_add rfl (by simp) (by simp)
  have hs1 : (Builder.add (.ofNat 2) (.ofNat 3)).run.run
      ((numbers.entered quotient).define (.sum 0 1)) =
      (.ok 5, ((numbers.entered quotient).define (.sum 0 1)).define (.sum 2 3)) :=
    Builder.run_add rfl (by simp) (by simp)
  have hp0 : (Builder.mul (.ofNat 4) (.ofNat 5)).run.run
      (((numbers.entered quotient).define (.sum 0 1)).define (.sum 2 3)) =
      (.ok 6, numbers.multiplied quotient) :=
    Builder.run_mul rfl (by simp) (by simp)
  have hy1Var : (Builder.newVariable y1).run.run (numbers.multiplied quotient) =
      (.ok 7, (numbers.multiplied quotient).grow [numbers.y1] []) :=
    Builder.run_newVariable_of_toElement rfl hvalue
  have hp1 : (Builder.mul (.ofNat 0) (.ofNat 7)).run.run
      ((numbers.multiplied quotient).grow [numbers.y1] []) =
      (.ok 8, ((numbers.multiplied quotient).grow [numbers.y1] []).define (.product 0 7)) :=
    Builder.run_mul rfl (by simp) (by simp)
  have hresult : (Builder.add (.ofNat 6) (.ofNat 8)).run.run
      (((numbers.multiplied quotient).grow [numbers.y1] []).define (.product 0 7)) =
      (.ok 9, numbers.computed quotient) :=
    Builder.run_add rfl (by simp) (by simp)
  have hfour : (Builder.insertConstantGate (.ofNat 3) (.int 4)).run.run
      (numbers.computed quotient) =
      (.ok 5, (numbers.computed quotient).grow [] [.constant 3 4]) :=
    Builder.run_insertConstantGate rfl toElement_four (System.names_ofNat (by simp))
  have hfirst : (Builder.preparePublicInput (.ofNat 1)).run.run
      ((numbers.computed quotient).grow [] [.constant 3 4]) =
      (.ok 6, ((numbers.computed quotient).grow [] [.constant 3 4]).bindPublic 1) :=
    Builder.run_preparePublicInput rfl (System.names_ofNat (by simp))
  have hsecond : (Builder.preparePublicInput (.ofNat 7)).run.run
      (((numbers.computed quotient).grow [] [.constant 3 4]).bindPublic 1) =
      (.ok 7, numbers.constrained quotient) :=
    Builder.run_preparePublicInput rfl (System.names_ofNat (by simp [System.bindPublic]))
  have hpad : (Builder.pad : Builder F Unit).run.run (numbers.constrained quotient) =
      (.ok (), numbers.system quotient) :=
    Builder.run_pad (by rw [numbers.phase_constrained]; decide)
      (by rw [numbers.numVars_constrained]; decide)
  rw [finish, Checked.run_bind_ok hs0, Checked.run_bind_ok hs1, Checked.run_bind_ok hp0,
    Checked.run_bind_ok (run_entry hy1 _), Checked.run_bind_ok hy1Var, Checked.run_bind_ok hp1,
    Checked.run_bind_ok hresult, Checked.run_bind_ok hfour, Checked.run_bind_ok hfirst,
    Checked.run_bind_ok hsecond, Checked.run_bind_ok hpad]
  rfl

/-- With entries that stand for elements nothing is refused, and the public inputs are given
back as they were given. -/
theorem run_build (hnumbers : circuit.StandsFor numbers) (quotient : QuotientDomain) :
    ∃ y0 y1, circuit.y.entry 0 = .ok y0 ∧ circuit.y.entry 1 = .ok y1 ∧
      y0.toElement F = .ok numbers.y0 ∧ y1.toElement F = .ok numbers.y1 ∧
      circuit.build.run.run (System.empty F quotient) =
        (.ok [y0, y1], numbers.system quotient) := by
  obtain ⟨x0, hx0, hx0Value⟩ := bind_eq_ok_iff.mp hnumbers.x0_eq
  obtain ⟨x1, hx1, hx1Value⟩ := bind_eq_ok_iff.mp hnumbers.x1_eq
  obtain ⟨y0, hy0, hy0Value⟩ := bind_eq_ok_iff.mp hnumbers.y0_eq
  obtain ⟨y1, hy1, hy1Value⟩ := bind_eq_ok_iff.mp hnumbers.y1_eq
  refine ⟨y0, y1, hy0, hy1, hy0Value, hy1Value, ?_⟩
  rw [build_eq, Checked.run_bind_ok (run_entry hx0 _), Checked.run_bind_ok (run_entry hy0 _),
    Checked.run_bind_ok (run_entry hx1 _),
    Checked.run_bind_ok (Builder.run_newVariable_of_toElement rfl hx0Value),
    Checked.run_bind_ok (Builder.run_newVariable_of_toElement rfl hy0Value),
    Checked.run_bind_ok (Builder.run_newVariable_of_toElement rfl hx1Value),
    Checked.run_bind_ok (Builder.run_newVariable_of_toElement rfl toElement_four)]
  exact run_finish hy1 hy1Value quotient

/-- The circuit is built for all inputs that stand for elements.  What it accepts ends with the
value of the formula for the inputs.  There is one accepted witness for each choice of inputs,
and for those that the circuit was built with it is the stored one. -/
theorem computes_formula (circuit : OnlineValue) {numbers : Numbers F}
    (hnumbers : circuit.StandsFor numbers) (quotient : QuotientDomain) :
    ∃ y0 y1 system, circuit.y.entry 0 = .ok y0 ∧ circuit.y.entry 1 = .ok y1 ∧
      circuit.build.run.run (System.empty F quotient) = (.ok [y0, y1], system) ∧
      (∀ given givenInputs, system.matrix.verify given givenInputs = .ok () →
        ∃ witness u0 u1 v0 v1, given.elements F = .ok witness ∧
          givenInputs.elements F = .ok [v0, v1] ∧ witness[0]? = some u0 ∧
          witness[2]? = some u1 ∧ witness[9]? = some ((u0 + v0) * (u1 + 4) + u0 * v1)) ∧
      (∀ u0 u1 v0 v1 : Element F, ∃! witness : List (Element F), witness[0]? = some u0 ∧
        witness[2]? = some u1 ∧
        system.matrix.verify (.ofElements witness) (.ofElements [v0, v1]) = .ok ()) ∧
      system.witness[0]? = some numbers.x0 ∧ system.witness[2]? = some numbers.x1 ∧
      (Value.list [y0, y1]).elements F = .ok [numbers.y0, numbers.y1] ∧
      system.matrix.verify (.ofElements system.witness) (.list [y0, y1]) = .ok () := by
  obtain ⟨y0, y1, hy0, hy1, hy0Value, hy1Value, hrun⟩ := run_build hnumbers quotient
  have hwitness := numbers.witness_system quotient
  have hreturned : (Value.list [y0, y1]).elements F = .ok [numbers.y0, numbers.y1] := by
    simp only [Value.elements, Value.entries_list, except_bind_ok, Value.toColumn, List.mapM_cons,
      List.mapM_nil, hy0Value, hy1Value]
    rfl
  refine ⟨y0, y1, numbers.system quotient, hy0, hy1, hrun, ?_, ?_, congrArg (·[0]?) hwitness,
    congrArg (·[2]?) hwitness, hreturned, ?_⟩
  · intro given givenInputs hverify
    obtain ⟨u0, u1, v0, v1, hgiven, hinputs⟩ := (numbers.verify_iff quotient).mp hverify
    exact ⟨_, u0, u1, v0, v1, hgiven, hinputs, rfl, rfl, rfl⟩
  · intro u0 u1 v0 v1
    refine ⟨trace u0 u1 v0 v1, ⟨rfl, rfl, ?_⟩, ?_⟩
    · exact (numbers.verify_iff quotient).mpr
        ⟨u0, u1, v0, v1, Value.elements_ofElements _, Value.elements_ofElements _⟩
    · rintro witness ⟨h0, h2, hverify⟩
      obtain ⟨s0, s1, t0, t1, hgiven, hinputs⟩ := (numbers.verify_iff quotient).mp hverify
      rw [Value.elements_ofElements, Except.ok.injEq] at hgiven hinputs
      obtain rfl := hgiven
      obtain rfl : s0 = u0 := Option.some.inj h0
      obtain rfl : s1 = u1 := Option.some.inj h2
      obtain ⟨rfl, rfl⟩ : v0 = t0 ∧ v1 = t1 := by simpa using hinputs
      rfl
  · rw [hwitness]
    exact (numbers.verify_iff quotient).mpr
      ⟨_, _, _, _, Value.elements_ofElements _, hreturned⟩

/-- With the default inputs the result is 25, and the circuit serves for others. -/
theorem computes_formula_twenty_five :
    ∃ numbers : Numbers .goldilocks, StandsFor {} numbers ∧
      ∃ y0 y1 system, (build {}).run.run (System.empty .goldilocks {}) = (.ok [y0, y1], system) ∧
        system.matrix.verify (.ofElements system.witness) (.list [y0, y1]) = .ok () ∧
        system.witness[9]? = some 25 ∧
        ∃! witness : List (Element .goldilocks), witness[0]? = some 5 ∧ witness[2]? = some 2 ∧
          system.matrix.verify (.ofElements witness)
            (.ofElements [(4 : Element .goldilocks), 1]) = .ok () := by
  have hnumbers : StandsFor {} (⟨1, 3, 2, 4⟩ : Numbers .goldilocks) := by
    constructor <;> decide
  obtain ⟨y0, y1, system, _, _, hrun, hformula, hunique, hx0, hx1, hreturned, hstored⟩ :=
    computes_formula {} hnumbers {}
  refine ⟨_, hnumbers, y0, y1, system, hrun, hstored, ?_, hunique 5 2 4 1⟩
  obtain ⟨witness, u0, u1, v0, v1, hwitness, hinputs, hu0, hu1, hresult⟩ := hformula _ _ hstored
  obtain rfl : system.witness = witness :=
    Except.ok.inj ((Value.elements_ofElements system.witness).symm.trans hwitness)
  obtain rfl : 1 = u0 := Option.some.inj (hx0.symm.trans hu0)
  obtain rfl : 3 = u1 := Option.some.inj (hx1.symm.trans hu1)
  obtain ⟨rfl, rfl⟩ : 2 = v0 ∧ 4 = v1 := by
    simpa using Except.ok.inj (hreturned.symm.trans hinputs)
  rw [hresult]
  decide

end OnlineValue

end Plonkish
