import Plonkish.Proofs.Run.Calls
import Plonkish.Proofs.System.Continuation

/-!
# Variables that gadgets define

A gadget that appends a variable for a result lets every accepted witness be continued by
one value, the result for this witness.  The value that is stored for the variable is the
result for the stored values, so a circuit that is built with some values serves for others.
-/

namespace Plonkish

variable {F : BaseField}

/-- The operation, on arguments that are as they have to be, defines a variable by a function
of the values of others. -/
inductive Computes (system : System F) : Operation → ((Nat → Element F) → Element F) → Prop
  | linear {inputs q1 q2 q3 q4 w1 w2 w3 w4 : Value} {f1 f2 f3 f4 : Nat}
      {e1 e2 e3 e4 : Element F} (hinputs : inputs.entries = .ok [w1, w2, w3, w4])
      (h1 : q1.toElement F = .ok e1) (h2 : q2.toElement F = .ok e2)
      (h3 : q3.toElement F = .ok e3) (h4 : q4.toElement F = .ok e4)
      (hfound : List.Forall₂ system.Names [w1, w2, w3, w4] [f1, f2, f3, f4]) :
      Computes system (.linearCombine inputs q1 q2 q3 q4) fun assigned =>
        e1 * assigned f1 + e2 * assigned f2 + e3 * assigned f3 + e4 * assigned f4
  | sum {left right : Value} {l r : Nat}
      (hfound : List.Forall₂ system.Names [left, right] [l, r]) :
      Computes system (.add left right) fun assigned => assigned l + assigned r
  | difference {left right : Value} {l r : Nat}
      (hfound : List.Forall₂ system.Names [left, right] [l, r]) :
      Computes system (.sub left right) fun assigned => assigned l - assigned r
  | product {left right : Value} {l r : Nat}
      (hfound : List.Forall₂ system.Names [left, right] [l, r]) :
      Computes system (.mul left right) fun assigned => assigned l * assigned r
  | selection {var0 var1 bit : Value} {v0 v1 b : Nat}
      (hfound : List.Forall₂ system.Names [bit, var0, var1] [b, v0, v1]) :
      Computes system (.select var0 var1 bit) fun assigned =>
        assigned v0 + assigned b * (assigned v1 - assigned v0)

/-- Building, the operation is accepted and defines a variable by a formula with these
values. -/
theorem Computes.exists_plan {system : System F} {operation : Operation}
    {value : (Nat → Element F) → Element F} (hcomputes : Computes system operation value)
    (hphase : system.phase = .building) :
    ∃ formula : Formula F, operation.plan system = .ok (.define formula) ∧
      ∀ assigned, formula.value assigned = value assigned := by
  have hgranted := System.checkBuilding_of_building hphase
  cases hcomputes with
  | linear hinputs hq1 hq2 hq3 hq4 hfound =>
      simp only [List.forall₂_cons] at hfound
      obtain ⟨h1, h2, h3, h4, _⟩ := hfound
      refine ⟨.linear _ _ _ _ _ _ _ _, ?_, fun _ => rfl⟩
      simp only [Operation.plan, hinputs, hq1, hq2, hq3, hq4, hgranted, except_bind_ok,
        h1.findOperand_eq hphase, h2.findOperand_eq hphase, h3.findOperand_eq hphase,
        h4.findOperand_eq hphase]
      rfl
  | sum hfound =>
      exact ⟨.sum _ _, System.planBinary_of_names hphase hfound _, fun _ => rfl⟩
  | difference hfound =>
      exact ⟨.difference _ _, System.planBinary_of_names hphase hfound _, fun _ => rfl⟩
  | product hfound =>
      exact ⟨.product _ _, System.planBinary_of_names hphase hfound _, fun _ => rfl⟩
  | selection hfound =>
      simp only [List.forall₂_cons] at hfound
      obtain ⟨hb, h0, h1, _⟩ := hfound
      refine ⟨.selection _ _ _, ?_, fun _ => rfl⟩
      simp only [Operation.plan, hgranted, except_bind_ok, hb.findOperand_eq hphase,
        h0.findOperand_eq hphase, h1.findOperand_eq hphase]
      rfl

namespace System

/-- A witness that the earlier system accepts is continued in one way to a witness that the
later system accepts: by the value that is computed from it. -/
def ContinuedBy (system later : System F) (value : (Nat → Element F) → Element F) : Prop :=
  ∀ given continued givenInputs witness added, given.elements F = .ok witness →
    continued.elements F = .ok (witness ++ [added]) →
    (later.matrix.verify continued givenInputs = .ok () ↔
      system.matrix.verify given givenInputs = .ok () ∧ added = value (assignment witness))

/-- The value of the variable that a reservation adds, if it adds one. -/
def fresh (system : System F) (constant : Reserved) : List (Element F) :=
  if (system.reserved? constant).isNone then [constant.value F] else []

variable {system : System F} {witness inputs : List (Element F)}
  {continued givenInputs : Value} {constant : Reserved}

theorem fresh_of_none (hfresh : system.reserved? constant = none) :
    system.fresh constant = [constant.value F] := by
  rw [fresh, hfresh, Option.isNone_none, if_pos rfl]

theorem fresh_of_some {index : Nat} (hcached : system.reserved? constant = some index) :
    system.fresh constant = [] := by
  rw [fresh, hcached, Option.isNone_some, if_neg Bool.false_ne_true]

theorem numVars_reserve (system : System F) (constant : Reserved) :
    (system.reserve constant).numVars = system.numVars + (system.fresh constant).length := by
  cases hreserved : system.reserved? constant with
  | none => rw [reserve_of_none hreserved, fresh_of_none hreserved, numVars_remember, numVars_grow]
  | some index => rw [reserve_of_some hreserved, fresh_of_some hreserved, List.length_nil,
      Nat.add_zero]

variable (hsystem : system.WellFormed)

include hsystem

/-- The reserved variable has its constant as value in an accepted witness that is continued
only if it is continued by this constant. -/
theorem Accepts.reserved_eq_iff (haccepts : system.Accepts witness inputs)
    {added : List (Element F)} (hlength : added.length = (system.fresh constant).length) :
    assignment (witness ++ added) (system.reservedIndex constant) = constant.value F ↔
      added = system.fresh constant := by
  cases hreserved : system.reserved? constant with
  | none =>
      rw [fresh_of_none hreserved] at hlength ⊢
      obtain ⟨value, rfl⟩ := List.length_eq_one_iff.mp hlength
      rw [reservedIndex_of_none hreserved, ← haccepts.length_eq, List.singleton_inj]
      exact Eq.congr_left (assignment_append_right witness [value] 0)
  | some index =>
      rw [fresh_of_some hreserved] at hlength ⊢
      obtain rfl := List.length_eq_zero_iff.mp hlength
      rw [reservedIndex_of_some hreserved, List.append_nil]
      exact iff_of_true (hsystem.assigned_reserved haccepts.satisfied hreserved) rfl

theorem continuedBy_define {formula : Formula F}
    (hoperands : ∀ index ∈ formula.operands, index < system.numVars) :
    system.ContinuedBy (system.define formula) fun assigned => formula.value assigned := by
  intro given continued givenInputs witness added hgiven hcontinued
  rw [verify_append_iff hsystem (hsystem.define hoperands) hgiven hcontinued rfl rfl
    hsystem.satisfied_define]
  refine and_congr_right fun hverify => ?_
  obtain ⟨_, _, haccepts⟩ := exists_accepts_of_verify hsystem hgiven hverify
  have hlength := haccepts.length_eq
  have hvalue : formula.value (assignment (witness ++ [added])) =
      formula.value (assignment witness) :=
    Formula.value_congr fun index hindex =>
      assignment_append_left _ (hlength ▸ hoperands index hindex)
  have hadded : assignment (witness ++ [added]) system.numVars = added :=
    hlength ▸ assignment_append_right witness [added] 0
  rw [hvalue, hadded]

theorem continuedBy_reserve (hfresh : system.reserved? constant = none) :
    system.ContinuedBy (system.reserve constant) fun _ => constant.value F := by
  intro given continued givenInputs witness added hgiven hcontinued
  have hlength : [added].length = (system.fresh constant).length := by
    rw [fresh_of_none hfresh, List.length_singleton, List.length_singleton]
  rw [verify_append_iff hsystem (hsystem.reserve constant) hgiven hcontinued
    (by rw [numVars_reserve, hlength]) (bindings_reserve system constant)
    (hsystem.satisfied_reserve constant)]
  refine and_congr_right fun hverify => ?_
  obtain ⟨_, _, haccepts⟩ := exists_accepts_of_verify hsystem hgiven hverify
  rw [haccepts.reserved_eq_iff hsystem hlength, fresh_of_none hfresh, List.singleton_inj]

/-- An equation restricts what is accepted, which is continued by zero if there was no
variable for it. -/
theorem verify_equate_iff {left right : Nat} (hleft : left < system.numVars)
    (hright : right < system.numVars) :
    (system.equate left right).matrix.verify continued givenInputs = .ok () ↔
      ∃ witness, continued.elements F = .ok (witness ++ system.fresh .zero) ∧
        system.matrix.verify (.ofElements witness) givenInputs = .ok () ∧
        witness[left]? = witness[right]? := by
  have hequal {values added inputs : List (Element F)} (haccepts : system.Accepts values inputs) :
      assignment (values ++ added) left = assignment (values ++ added) right ↔
        values[left]? = values[right]? := by
    rw [assignment_append_left _ (haccepts.length_eq ▸ hleft),
      assignment_append_left _ (haccepts.length_eq ▸ hright),
      getElem?_eq_getElem?_iff (haccepts.length_eq ▸ hleft) (haccepts.length_eq ▸ hright)]
  rw [verify_iff_exists_append hsystem (hsystem.equate hleft hright)
    (system.numVars_reserve .zero) (bindings_equate system left right)
    hsystem.satisfied_equate]
  constructor
  · rintro ⟨values, added, hlength, hcontinued, hverify, hzero, hsame⟩
    obtain ⟨_, _, haccepts⟩ :=
      exists_accepts_of_verify hsystem (Value.elements_ofElements values) hverify
    obtain rfl := (haccepts.reserved_eq_iff hsystem hlength).mp hzero
    exact ⟨values, hcontinued, hverify, (hequal haccepts).mp hsame⟩
  · rintro ⟨values, hcontinued, hverify, hsame⟩
    obtain ⟨_, _, haccepts⟩ :=
      exists_accepts_of_verify hsystem (Value.elements_ofElements values) hverify
    exact ⟨values, _, rfl, hcontinued, hverify, (haccepts.reserved_eq_iff hsystem rfl).mpr rfl,
      (hequal haccepts).mpr hsame⟩

end System

namespace Operation

/-- On every system that is being built, a gadget with arguments that are as they have to be
is accepted and continues what was accepted before in one way, by the value that it computes,
which is also what it stores.  The first request for a constant continues it by the constant.
An equation only restricts it, and continues it by zero where there was no variable for that. -/
theorem gadgets_define (quotient : QuotientDomain) (operations : List Operation)
    {system : System F} (hreached : (System.empty F quotient).after operations = system)
    (hphase : system.phase = .building) :
    (∀ operation value, Computes system operation value →
      ∃ after, operation.run system = (.ok (.index system.numVars), after) ∧
        system.ContinuedBy after value ∧
        after.witness = system.witness ++ [value (assignment system.witness)]) ∧
    (system.zeroVar? = none →
      ∃ after, zeroVariable.run system = (.ok (.index system.numVars), after) ∧
        system.ContinuedBy after fun _ => 0) ∧
    (system.oneVar? = none →
      ∃ after, oneVariable.run system = (.ok (.index system.numVars), after) ∧
        system.ContinuedBy after fun _ => 1) ∧
    ∀ leftIndex rightIndex left right, system.Names leftIndex left →
      system.Names rightIndex right →
      ∃ after, (equal leftIndex rightIndex).run system = (.ok .done, after) ∧
        ∀ continued givenInputs, after.matrix.verify continued givenInputs = .ok () ↔
          ∃ witness, continued.elements F =
              .ok (witness ++ if system.zeroVar?.isNone then [0] else []) ∧
            system.matrix.verify (.ofElements witness) givenInputs = .ok () ∧
            witness[left]? = witness[right]? := by
  have hsystem : system.WellFormed :=
    hreached ▸ (System.wellFormed_empty F quotient).after operations
  have hreserve {operation : Operation} {constant : Reserved}
      (hplan : operation.plan system = system.planReserve constant)
      (hfresh : system.reserved? constant = none) :
      operation.run system = (.ok (.index system.numVars), system.reserve constant) := by
    rw [← System.reservedIndex_of_none hfresh]
    exact run_of_plan hsystem (hplan.trans (System.planReserve_of_building hphase _))
  refine ⟨?_, ?_, ?_, ?_⟩
  · intro operation value hcomputes
    obtain ⟨formula, hplan, hvalue⟩ := hcomputes.exists_plan hphase
    have hlegal := (accepted_of_plan hplan).legal
    obtain rfl : (fun assigned => formula.value assigned) = value := funext hvalue
    exact ⟨system.define formula, run_of_plan hsystem hplan,
      System.continuedBy_define hsystem hlegal.2, rfl⟩
  · intro hfresh
    exact ⟨_, hreserve rfl hfresh, System.continuedBy_reserve hsystem hfresh⟩
  · intro hfresh
    exact ⟨_, hreserve rfl hfresh, System.continuedBy_reserve hsystem hfresh⟩
  · intro leftIndex rightIndex left right hleft hright
    have hplan : (equal leftIndex rightIndex).plan system =
        .ok ⟨.equation left right, fun _ => .done⟩ :=
      System.planBinary_of_names hphase (.cons hleft (.cons hright .nil)) _
    refine ⟨system.equate left right, run_of_plan hsystem hplan, ?_⟩
    intro continued givenInputs
    exact System.verify_equate_iff hsystem hleft.2 hright.2

/-- A selection by a variable that is neither 0 nor 1, among the variables themselves. -/
theorem gadgets_define_selection :
    ((System.empty .goldilocks {}).after
        [newVariable (.int 3), newVariable (.int 5)]).phase = .building ∧
      ∃ after, (select (.int 0) (.int 1) (.int 1)).run
          ((System.empty .goldilocks {}).after [newVariable (.int 3), newVariable (.int 5)]) =
          (.ok (.index 2), after) ∧
        after.matrix.verify (.list [.int 4, .int 6, .int 16]) (.list []) = .ok () ∧
        ∀ added : Element .goldilocks,
          after.matrix.verify (.ofElements [.ofNat _ 3, .ofNat _ 5, added]) (.list []) = .ok () ↔
            added = .ofNat _ 13 := by
  have hfound : List.Forall₂ ((System.empty .goldilocks {}).after
      [newVariable (.int 3), newVariable (.int 5)]).Names
      [.int 1, .int 0, .int 1] [1, 0, 1] :=
    .cons ⟨rfl, by decide +kernel⟩ (.cons ⟨rfl, by decide +kernel⟩
      (.cons ⟨rfl, by decide +kernel⟩ .nil))
  obtain ⟨after, hrun, hcontinued, _⟩ :=
    (gadgets_define {} _ rfl rfl).1 _ _ (.selection hfound)
  refine ⟨rfl, after, hrun, ?_, fun added => ?_⟩
  · refine (hcontinued (.list [.int 4, .int 6]) _ _ [.ofNat _ 4, .ofNat _ 6] (.ofNat _ 16)
      ?_ ?_).mpr ⟨?_, ?_⟩ <;> decide +kernel
  · have hverify : ((System.empty .goldilocks {}).after [newVariable (.int 3),
        newVariable (.int 5)]).matrix.verify (.list [.int 3, .int 5]) (.list []) = .ok () := by
      decide +kernel
    have hvalue : assignment [.ofNat .goldilocks 3, .ofNat _ 5] 0 +
        assignment [.ofNat .goldilocks 3, .ofNat _ 5] 1 *
          (assignment [.ofNat .goldilocks 3, .ofNat _ 5] 1 -
            assignment [.ofNat .goldilocks 3, .ofNat _ 5] 0) = .ofNat _ 13 := by
      decide +kernel
    have hiff := hcontinued (.list [.int 3, .int 5]) (.ofElements [.ofNat _ 3, .ofNat _ 5, added])
      (.list []) [.ofNat _ 3, .ofNat _ 5] added (by decide +kernel) (Value.elements_ofElements _)
    exact (hiff.trans (and_iff_right hverify)).trans (Eq.congr_right hvalue)

end Operation

end Plonkish
