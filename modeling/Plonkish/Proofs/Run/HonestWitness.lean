import Plonkish.Proofs.Run.Calls
import Plonkish.Proofs.System.Acceptance

/-!
# When the stored witness is accepted

Some operations demand something of the variables they name: a constant gate that
the variable has the constant, a range check that it is in range.  The witness that
a run stores is accepted exactly if every such operation found its demand met by the
values stored at that moment; all other operations are harmless, whatever the values.
-/

namespace Plonkish

variable {F : BaseField}

/-- The stored value of the variable that an argument names. -/
def System.valueOf (system : System F) (index : Value) : Element F :=
  match index.index? with
  | some number => system.stored number.toNat
  | none => 0

theorem System.Names.valueOf_eq {system : System F} {index : Value} {found : Nat}
    (hindex : system.Names index found) : system.valueOf index = system.stored found := by
  rw [valueOf, hindex.1]
  rfl

theorem System.map_valueOf {system : System F} {given : Wires Value} {found : Wires Nat}
    (hfound : List.Forall₂ system.Names given.toList found.toList) :
    given.map system.valueOf = found.map system.stored := by
  simp only [Wires.toList, List.forall₂_cons] at hfound
  obtain ⟨h1, h2, h3, h4, ho, _⟩ := hfound
  rw [Wires.map, Wires.map, h1.valueOf_eq, h2.valueOf_eq, h3.valueOf_eq, h4.valueOf_eq,
    ho.valueOf_eq]

namespace Operation

/-- What the operation demands of the stored values. -/
def Condition (system : System F) : Operation → Prop
  | insertGate wires selectors =>
    ∃ (given : Wires Value) (givenSels : Selectors Value) (sels : Selectors (Element F)),
      wires.entries = .ok given.toList ∧ selectors.entries = .ok givenSels.toList ∧
        givenSels.mapM (Value.toElement F) = .ok sels ∧
        Gate.residual (given.map system.valueOf) sels 0 = 0
  | insertLinearGate inputs output q1 q2 q3 q4 =>
    ∃ (w1 w2 w3 w4 : Value) (e1 e2 e3 e4 : Element F),
      inputs.entries = .ok [w1, w2, w3, w4] ∧
        q1.toElement F = .ok e1 ∧ q2.toElement F = .ok e2 ∧
        q3.toElement F = .ok e3 ∧ q4.toElement F = .ok e4 ∧
        system.valueOf output = e1 * system.valueOf w1 + e2 * system.valueOf w2 +
          e3 * system.valueOf w3 + e4 * system.valueOf w4
  | insertAddGate left right output =>
    system.valueOf output = system.valueOf left + system.valueOf right
  | insertSubGate left right output =>
    system.valueOf output = system.valueOf left - system.valueOf right
  | insertMulGate left right output =>
    system.valueOf output = system.valueOf left * system.valueOf right
  | insertBooleanGate index => system.valueOf index = 0 ∨ system.valueOf index = 1
  | insertConstantGate index constant => constant.toElement F = .ok (system.valueOf index)
  | equal left right => system.valueOf left = system.valueOf right
  | rangeCheck index count =>
    ∃ number : Nat, count.toNumber = .ok (number : Int) ∧
      (system.valueOf index).val < 2 ^ number
  | _ => True

end Operation

/-- The demands of what an accepted operation does are the condition of the operation. -/
theorem Accepted.demands_iff {system : System F} {operation : Operation} {plan : Plan F}
    (haccepted : Accepted system operation plan) :
    plan.change.Demands system ↔ operation.Condition system := by
  cases haccepted with
  | insertGate hphase hselectors hsels hwires hfound =>
      have hvalues := System.map_valueOf hfound
      constructor
      · intro hholds
        exact ⟨_, _, _, hwires, hselectors, hsels, hvalues ▸ hholds⟩
      · rintro ⟨given, givenSels, sels, hgiven, hgivenSels, hcoerced, hresidual⟩
        obtain rfl := Wires.toList_injective (Except.ok.inj (hwires.symm.trans hgiven))
        obtain rfl := Selectors.toList_injective (Except.ok.inj (hselectors.symm.trans hgivenSels))
        obtain rfl := Except.ok.inj (hsels.symm.trans hcoerced)
        rwa [hvalues] at hresidual
  | insertLinearGate hphase hinputs h1 h2 h3 h4 hfound =>
      simp only [List.forall₂_cons] at hfound
      obtain ⟨hw1, hw2, hw3, hw4, ho, _⟩ := hfound
      rw [Operation.Condition, ho.valueOf_eq]
      refine (Row.holds_linear ..).trans ?_
      constructor
      · intro hsum
        refine ⟨_, _, _, _, _, _, _, _, hinputs, h1, h2, h3, h4, ?_⟩
        rw [hw1.valueOf_eq, hw2.valueOf_eq, hw3.valueOf_eq, hw4.valueOf_eq, hsum]
      · rintro ⟨w1, w2, w3, w4, e1, e2, e3, e4, hentries, h1', h2', h3', h4', hsum⟩
        cases hinputs.symm.trans hentries
        cases h1.symm.trans h1'
        cases h2.symm.trans h2'
        cases h3.symm.trans h3'
        cases h4.symm.trans h4'
        rwa [hw1.valueOf_eq, hw2.valueOf_eq, hw3.valueOf_eq, hw4.valueOf_eq] at hsum
  | insertAddGate hphase hfound =>
      simp only [List.forall₂_cons] at hfound
      obtain ⟨hleft, hright, houtput, _⟩ := hfound
      rw [Operation.Condition, houtput.valueOf_eq, hleft.valueOf_eq, hright.valueOf_eq]
      exact Row.holds_sum ..
  | insertSubGate hphase hfound =>
      simp only [List.forall₂_cons] at hfound
      obtain ⟨hleft, hright, houtput, _⟩ := hfound
      rw [Operation.Condition, houtput.valueOf_eq, hleft.valueOf_eq, hright.valueOf_eq]
      exact Row.holds_difference ..
  | insertMulGate hphase hfound =>
      simp only [List.forall₂_cons] at hfound
      obtain ⟨hleft, hright, houtput, _⟩ := hfound
      rw [Operation.Condition, houtput.valueOf_eq, hleft.valueOf_eq, hright.valueOf_eq]
      exact Row.holds_product ..
  | insertBooleanGate hphase hindex =>
      rw [Operation.Condition, hindex.valueOf_eq]
      exact Row.holds_boolean _ _
  | insertConstantGate hphase hconstant hindex =>
      rw [Operation.Condition, hindex.valueOf_eq, hconstant, Except.ok.injEq, eq_comm]
      exact Row.holds_constant _ _ _
  | equal hphase hfound =>
      simp only [List.forall₂_cons] at hfound
      obtain ⟨hleft, hright, _⟩ := hfound
      rw [Operation.Condition, hleft.valueOf_eq, hright.valueOf_eq]
      exact Iff.rfl
  | @rangeCheck index count checked number hphase hindex hcount htwo =>
      obtain ⟨bits, rfl⟩ := Int.eq_ofNat_of_zero_le (by omega : 0 ≤ number)
      rw [Operation.Condition, hindex.valueOf_eq, hcount]
      constructor
      · intro hlt
        exact ⟨bits, rfl, hlt⟩
      · rintro ⟨other, hother, hlt⟩
        cases hother
        exact hlt
  | _ => exact Iff.rfl

namespace Operation

/-- A run keeps the stored values satisfying exactly if every accepted call met its
condition. -/
theorem honest_after {system : System F} (hsystem : system.WellFormed)
    (hphase : system.phase ≠ .proving) {operations : List Operation}
    (hoperations : takeWitness ∉ operations) :
    (system.after operations).phase ≠ .proving ∧
      ((system.after operations).Honest ↔ system.Honest ∧
        ∀ call ∈ calls operations system, call.Succeeded →
          call.operation.Condition call.before) := by
  induction operations generalizing system with
  | nil => exact ⟨hphase, (and_iff_left (List.forall_mem_nil _)).symm⟩
  | cons operation operations ih =>
      rw [List.mem_cons, not_or] at hoperations
      obtain ⟨hoperation, hrest⟩ := hoperations
      rw [System.after_cons, calls, List.forall_mem_cons]
      have hafter := hsystem.run operation
      rcases run_cases hsystem operation with ⟨refusal, hrun⟩ | ⟨plan, haccepted, hrun⟩
      · rw [hrun] at hafter ⊢
        obtain ⟨hlast, hhonest⟩ := ih hsystem hphase hrest
        refine ⟨hlast, hhonest.trans (and_congr_right fun _ => ?_)⟩
        exact (and_iff_right fun hsucceeded => absurd hsucceeded Bool.false_ne_true).symm
      · rw [hrun] at hafter ⊢
        have hchange := haccepted.change_ne_takeWitness (Ne.symm hoperation)
        obtain ⟨hlast, hhonest⟩ := ih hafter
          (Change.phase_apply_ne_proving hphase hchange) hrest
        refine ⟨hlast, hhonest.trans ?_⟩
        rw [Change.honest_apply hsystem hphase haccepted.legal hchange, haccepted.demands_iff,
          and_assoc]
        refine and_congr_right fun _ => and_congr_left fun _ => ?_
        exact ⟨fun hcondition _ => hcondition, fun hcondition => hcondition rfl⟩

end Operation

namespace System

theorem verify_stored_iff {system : System F} (hsystem : system.WellFormed)
    (hphase : system.phase ≠ .proving) :
    system.matrix.verify (.ofElements system.witness)
        (.ofElements (system.bindings.map fun binding => system.witness.getD binding.boundVar 0)) =
        .ok () ↔ system.Honest := by
  rw [verify_elements_iff hsystem (Value.elements_ofElements _) (Value.elements_ofElements _)]
  constructor
  · intro haccepts
    exact haccepts.satisfied
  · intro hhonest
    exact ⟨hsystem.length_witness hphase, hhonest, rfl⟩

end System

namespace Operation

/-- The witness that is taken out at the end of a run, with the values of the bound
variables as public inputs, is accepted exactly if every call that was not refused
met its condition when it was made. -/
theorem verify_taken_witness_iff (quotient : QuotientDomain) {operations : List Operation}
    (hoperations : takeWitness ∉ operations) :
    ∃ witness taken, takeWitness.run ((System.empty F quotient).after operations) =
        (.ok (.witness witness), taken) ∧
      (taken.matrix.verify (.ofElements witness) (.ofElements (taken.bindings.map
          fun binding => witness.getD binding.boundVar 0)) = .ok () ↔
        ∀ call ∈ calls operations (System.empty F quotient), call.Succeeded →
          call.operation.Condition call.before) := by
  have hempty := System.wellFormed_empty F quotient
  have hfinal := hempty.after operations
  obtain ⟨hphase, hhonest⟩ := honest_after hempty nofun hoperations
  have hstart : (System.empty F quotient).Honest := nofun
  refine ⟨((System.empty F quotient).after operations).witness,
    ((System.empty F quotient).after operations).taken, ?_, ?_⟩
  · rw [run_takeWitness, plan, if_neg hphase]
    rfl
  · calc _ ↔ ((System.empty F quotient).after operations).Honest :=
          System.verify_stored_iff hfinal hphase
      _ ↔ (System.empty F quotient).Honest ∧ _ := hhonest
      _ ↔ _ := and_iff_right hstart

/-- The run of a value with three binary digits through a range check for three. -/
theorem verify_taken_witness_five :
    takeWitness ∉ [newVariable (.int 5), rangeCheck (.int 0) (.int 3), preparePublicInput (.int 0),
        pad] ∧
      ∃ witness taken, takeWitness.run ((System.empty .goldilocks {}).after
          [newVariable (.int 5), rangeCheck (.int 0) (.int 3), preparePublicInput (.int 0), pad]) =
          (.ok (.witness witness), taken) ∧
        taken.matrix.verify (.ofElements witness) (.ofElements (taken.bindings.map
          fun binding => witness.getD binding.boundVar 0)) = .ok () := by
  have hoperations : takeWitness ∉ [newVariable (.int 5), rangeCheck (.int 0) (.int 3),
      preparePublicInput (.int 0), pad] := by simp
  obtain ⟨witness, taken, hrun, hverify⟩ :=
    verify_taken_witness_iff (F := .goldilocks) {} hoperations
  have hrange : ((((newVariable (.int 5)).run (System.empty .goldilocks {})).2).valueOf
      (.int 0)).val < 2 ^ 3 := by
    decide +kernel
  refine ⟨hoperations, witness, taken, hrun, hverify.mpr ?_⟩
  simp only [calls, List.forall_mem_cons, Condition]
  exact ⟨fun _ => trivial, fun _ => ⟨3, rfl, hrange⟩, fun _ => trivial, fun _ => trivial,
    List.forall_mem_nil _⟩

end Operation

end Plonkish
