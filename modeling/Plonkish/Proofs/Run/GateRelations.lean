import Plonkish.Proofs.Run.Calls
import Plonkish.Proofs.System.Continuation

/-!
# What the primitive operations mean

An operation that inserts a row restricts what is accepted by one relation between the
values of its operands, and by nothing else.  A public input takes the value of its
variable, and new variables are free.
-/

namespace Plonkish

variable {F : BaseField}

namespace Gate

/-- The gate equation as a polynomial of degree five in the wires. -/
def polynomial (q : Selectors (Element F)) (w : Wires (Element F)) (publicValue : Element F) :
    Element F :=
  q.q1 * w.w1 + q.q2 * w.w2 + q.q3 * w.w3 + q.q4 * w.w4 + q.qm1 * w.w1 * w.w2
    + q.qm2 * w.w3 * w.w4 + q.qc + publicValue + q.qecc * w.w1 * w.w2 * w.w3 * w.w4 * w.wo
    + q.qh1 * w.w1 ^ 5 + q.qh2 * w.w2 ^ 5 + q.qh3 * w.w3 ^ 5 + q.qh4 * w.w4 ^ 5 - q.qo * w.wo

theorem residual_eq_polynomial (w : Wires (Element F)) (q : Selectors (Element F))
    (publicValue : Element F) : residual w q publicValue = polynomial q w publicValue := by
  simp only [residual, polynomial, Element.pow_eq]
  ring

end Gate

/-- The operation is to insert a row, on arguments that are as they have to be, for a
relation between the values of some variables. -/
inductive Relates (system : System F) :
    Operation → List Nat → ((Nat → Element F) → Prop) → Prop
  | gate {wires selectors : Value} {given : Wires Value} {givenSels : Selectors Value}
      {found : Wires Nat} {sels : Selectors (Element F)}
      (hselectors : selectors.entries = .ok givenSels.toList)
      (hsels : givenSels.mapM (Value.toElement F) = .ok sels)
      (hwires : wires.entries = .ok given.toList)
      (hfound : List.Forall₂ system.Names given.toList found.toList) :
      Relates system (.insertGate wires selectors) found.toList
        fun assigned => Gate.polynomial sels (found.map assigned) 0 = 0
  | linear {inputs output q1 q2 q3 q4 w1 w2 w3 w4 : Value} {f1 f2 f3 f4 fo : Nat}
      {e1 e2 e3 e4 : Element F} (hinputs : inputs.entries = .ok [w1, w2, w3, w4])
      (h1 : q1.toElement F = .ok e1) (h2 : q2.toElement F = .ok e2)
      (h3 : q3.toElement F = .ok e3) (h4 : q4.toElement F = .ok e4)
      (hfound : List.Forall₂ system.Names [w1, w2, w3, w4, output] [f1, f2, f3, f4, fo]) :
      Relates system (.insertLinearGate inputs output q1 q2 q3 q4) [f1, f2, f3, f4, fo]
        fun assigned => assigned fo =
          e1 * assigned f1 + e2 * assigned f2 + e3 * assigned f3 + e4 * assigned f4
  | sum {left right output : Value} {l r o : Nat}
      (hfound : List.Forall₂ system.Names [left, right, output] [l, r, o]) :
      Relates system (.insertAddGate left right output) [l, r, o]
        fun assigned => assigned o = assigned l + assigned r
  | difference {left right output : Value} {l r o : Nat}
      (hfound : List.Forall₂ system.Names [left, right, output] [l, r, o]) :
      Relates system (.insertSubGate left right output) [l, r, o]
        fun assigned => assigned o = assigned l - assigned r
  | product {left right output : Value} {l r o : Nat}
      (hfound : List.Forall₂ system.Names [left, right, output] [l, r, o]) :
      Relates system (.insertMulGate left right output) [l, r, o]
        fun assigned => assigned o = assigned l * assigned r
  | boolean {index : Value} {found : Nat} (hindex : system.Names index found) :
      Relates system (.insertBooleanGate index) [found]
        fun assigned => assigned found = 0 ∨ assigned found = 1
  | constant {index constant : Value} {found : Nat} {value : Element F}
      (hconstant : constant.toElement F = .ok value) (hindex : system.Names index found) :
      Relates system (.insertConstantGate index constant) [found]
        fun assigned => assigned found = value

/-- The operation is to append variables, and how many. -/
inductive Introduces (F : BaseField) : Operation → Nat → Prop
  | newVariable {value : Value} {element : Element F} (hvalue : value.toElement F = .ok element) :
      Introduces F (.newVariable value) 1
  | addVariables {given : Value} {values : List (Element F)}
      (hvalues : given.elements F = .ok values) : Introduces F (.addVariables given) values.length

namespace Relates

variable {system : System F} {operation : Operation} {operands : List Nat}
  {relation : (Nat → Element F) → Prop}

/-- Only the operands matter, not the variables on wires that a row does not need. -/
theorem congr (hrelates : Relates system operation operands relation)
    {left right : Nat → Element F} (hagree : ∀ index ∈ operands, left index = right index) :
    relation left ↔ relation right := by
  cases hrelates with
  | gate => simp only [Wires.map_congr hagree]
  | linear | sum | difference | product | boolean | constant =>
      simp only [List.forall_mem_cons] at hagree
      simp only [hagree]

/-- Building, the operation is accepted, and the row that it inserts holds exactly if the
relation does. -/
theorem exists_plan (hrelates : Relates system operation operands relation)
    (hphase : system.phase = .building) :
    ∃ row report, operation.plan system = .ok ⟨.row row, report⟩ ∧
      ∀ assigned, row.Holds assigned ↔ relation assigned := by
  have hgranted := System.checkBuilding_of_building hphase
  cases hrelates with
  | @gate wires selectors given givenSels found sels hselectors hsels hwires hfound =>
      simp only [Wires.toList, List.forall₂_cons] at hfound
      obtain ⟨h1, h2, h3, h4, ho, _⟩ := hfound
      refine ⟨⟨found, sels⟩, fun before => .index before.size, ?_, fun assigned => ?_⟩
      · simp only [Operation.plan, hselectors, hwires, hsels, hgranted, except_bind_ok,
          Selectors.ofList?_toList, Wires.ofList?_toList, h1.resolve_eq, h2.resolve_eq,
          h3.resolve_eq, h4.resolve_eq, ho.resolve_eq]
        rfl
      · rw [Row.Holds, Gate.residual_eq_polynomial]
  | linear hinputs hq1 hq2 hq3 hq4 hfound =>
      simp only [List.forall₂_cons] at hfound
      obtain ⟨h1, h2, h3, h4, ho, _⟩ := hfound
      refine ⟨_, fun before => .index before.size, ?_, Row.holds_linear _ _ _ _ _ _ _ _ _⟩
      simp only [Operation.plan, hinputs, hq1, hq2, hq3, hq4, hgranted, except_bind_ok,
        h1.resolve_eq, h2.resolve_eq, h3.resolve_eq, h4.resolve_eq, ho.resolve_eq]
      rfl
  | sum hfound =>
      exact ⟨_, _, System.planBinaryRow_of_names hphase hfound .sum, Row.holds_sum _ _ _⟩
  | difference hfound =>
      exact ⟨_, _, System.planBinaryRow_of_names hphase hfound .difference,
        Row.holds_difference _ _ _⟩
  | product hfound =>
      exact ⟨_, _, System.planBinaryRow_of_names hphase hfound .product, Row.holds_product _ _ _⟩
  | @boolean index found hindex =>
      refine ⟨_, fun _ => .boolVar ⟨found⟩, ?_, Row.holds_boolean _⟩
      simp only [Operation.plan, hgranted, hindex.resolve_eq, except_bind_ok]
      rfl
  | constant hconstant hindex =>
      refine ⟨_, fun before => .index before.size, ?_, Row.holds_constant _ _⟩
      simp only [Operation.plan, hconstant, hgranted, hindex.resolve_eq, except_bind_ok]
      rfl

end Relates

/-- Building, the operation is accepted and appends as many variables. -/
theorem Introduces.exists_plan {system : System F} {operation : Operation} {count : Nat}
    (hintroduces : Introduces F operation count) (hphase : system.phase = .building) :
    ∃ values report, operation.plan system = .ok ⟨.inputs values, report⟩ ∧
      values.length = count := by
  have hgranted := System.checkBuilding_of_building hphase
  cases hintroduces with
  | @newVariable value element hvalue =>
      refine ⟨[element], fun before => .index before.numVars, ?_, rfl⟩
      simp only [Operation.plan, hgranted, hvalue, except_bind_ok]
      rfl
  | @addVariables given values hvalues =>
      refine ⟨values, fun before => .indices (List.range' before.numVars values.length), ?_, rfl⟩
      simp only [Operation.plan, hgranted, hvalues, except_bind_ok]
      rfl

namespace Operation

/-- On every system that is being built, a primitive operation with arguments that are as
they have to be is accepted.  After a row was inserted, what is accepted is what was accepted
before and meets the relation of the row, which concerns its operands only.  After a public
input was prepared, the accepted inputs end with the value of its variable.  New variables
may have any values. -/
theorem primitives_exact (quotient : QuotientDomain) (operations : List Operation)
    {system : System F} (hreached : (System.empty F quotient).after operations = system)
    (hphase : system.phase = .building) :
    (∀ operation operands relation, Relates system operation operands relation →
      ∃ outcome after, operation.run system = (.ok outcome, after) ∧
        (∀ given givenInputs, after.matrix.verify given givenInputs = .ok () ↔
          system.matrix.verify given givenInputs = .ok () ∧
            ∃ witness, given.elements F = .ok witness ∧ relation (assignment witness)) ∧
        ∀ left right : Nat → Element F, (∀ index ∈ operands, left index = right index) →
          (relation left ↔ relation right)) ∧
    (∀ index found, system.Names index found →
      ∃ after, (preparePublicInput index).run system = (.ok (.index system.size), after) ∧
        ∀ given givenInputs continuedInputs inputs input, givenInputs.elements F = .ok inputs →
          continuedInputs.elements F = .ok (inputs ++ [input]) →
          (after.matrix.verify given continuedInputs = .ok () ↔
            system.matrix.verify given givenInputs = .ok () ∧
              ∃ witness, given.elements F = .ok witness ∧ witness[found]? = some input)) ∧
    ∀ operation count, Introduces F operation count →
      ∃ outcome after, operation.run system = (.ok outcome, after) ∧
        ∀ given continued givenInputs witness added, given.elements F = .ok witness →
          continued.elements F = .ok (witness ++ added) → added.length = count →
          (after.matrix.verify continued givenInputs = .ok () ↔
            system.matrix.verify given givenInputs = .ok ()) := by
  have hsystem : system.WellFormed :=
    hreached ▸ (System.wellFormed_empty F quotient).after operations
  refine ⟨?_, ?_, ?_⟩
  · intro operation operands relation hrelates
    obtain ⟨row, report, hplan, hholds⟩ := hrelates.exists_plan hphase
    have hlegal := (accepted_of_plan hplan).legal
    refine ⟨report system, system.grow [] [row], run_of_plan hsystem hplan, ?_,
      fun left right => hrelates.congr⟩
    intro given givenInputs
    simp only [System.verify_grow_row_iff hsystem hlegal.2, hholds]
  · intro index found hindex
    have hplan : (preparePublicInput index).plan system =
        .ok ⟨.publicInput found, fun before => .index before.size⟩ := by
      rw [plan, System.checkBuilding_of_building hphase, hindex.resolve_eq]
      rfl
    refine ⟨system.bindPublic found, run_of_plan hsystem hplan, ?_⟩
    intro given givenInputs continuedInputs inputs input
    exact System.verify_bindPublic_iff hsystem hindex.2
  · intro operation count hintroduces
    obtain ⟨values, report, hplan, hcount⟩ := hintroduces.exists_plan hphase
    refine ⟨report system, system.grow values [], run_of_plan hsystem hplan, ?_⟩
    intro given continued givenInputs witness added hgiven hcontinued hadded
    have hsatisfied (assigned : Nat → Element F) : (system.grow values []).Satisfied assigned ↔
        system.Satisfied assigned ∧ True := by
      rw [hsystem.satisfied_grow, iff_true_intro (List.forall_mem_nil _)]
    rw [System.verify_append_iff hsystem (hsystem.grow_values values) hgiven hcontinued
      (by rw [System.numVars_grow, hcount, hadded]) rfl hsatisfied, and_true]

/-- Variable 0 is both operands of a product, and variable 1 its square. -/
theorem primitives_exact_square :
    ((System.empty .goldilocks {}).after
        [newVariable (.int 3), newVariable (.int 5)]).phase = .building ∧
      ∃ outcome after, (insertMulGate (.int 0) (.boolVar 0) (.int 1)).run
          ((System.empty .goldilocks {}).after [newVariable (.int 3), newVariable (.int 5)]) =
          (.ok outcome, after) ∧
        after.matrix.verify (.list [.int (-2), .int 4]) (.list []) = .ok () ∧
        after.matrix.verify (.list [.int 3, .int 5]) (.list []) ≠ .ok () := by
  have hfound : List.Forall₂ ((System.empty .goldilocks {}).after
      [newVariable (.int 3), newVariable (.int 5)]).Names
      [.int 0, .boolVar 0, .int 1] [0, 0, 1] :=
    .cons ⟨rfl, by decide +kernel⟩ (.cons ⟨rfl, by decide +kernel⟩
      (.cons ⟨rfl, by decide +kernel⟩ .nil))
  obtain ⟨outcome, after, hrun, hverify, _⟩ :=
    (primitives_exact {} _ rfl rfl).1 _ _ _ (.product hfound)
  refine ⟨rfl, outcome, after, hrun, ?_, ?_⟩
  · refine (hverify _ _).mpr ⟨by decide +kernel, [-.ofNat _ 2, .ofNat _ 4], ?_, ?_⟩ <;>
      decide +kernel
  · intro haccepted
    obtain ⟨_, witness, hwitness, hproduct⟩ := (hverify _ _).mp haccepted
    have hgiven : (Value.list [.int 3, .int 5]).elements .goldilocks =
        .ok [.ofNat _ 3, .ofNat _ 5] := by
      decide +kernel
    rw [hgiven, Except.ok.injEq] at hwitness
    rw [← hwitness] at hproduct
    exact absurd hproduct (by decide +kernel)

end Operation

end Plonkish
