import Plonkish.Proofs.Run.Calls
import Plonkish.Proofs.System.Acceptance

/-!
# Boolean variables are 0 or 1

A `BoolVar` is an index and carries no check of its own.  That its variable is 0 or 1
follows from the rows that the circuit has for it, whatever is added to the circuit
later and whoever made up the witness.  So a selection that is controlled by a
`BoolVar` of the same run gives one of the two variables it selects from.
-/

namespace Plonkish

variable {F : BaseField}

/-- The variables that an outcome gives as forced to be 0 or 1. -/
def Outcome.marked : Outcome F → List BoolVar
  | boolVar bit => [bit]
  | boolVars bits => bits
  | flags pair => [pair.equal, pair.notEqual]
  | _ => []

/-- The variables that a call gave back as forced to be 0 or 1. -/
def Call.marked (call : Call F) : List BoolVar :=
  match call.outcome with
  | .ok outcome => outcome.marked
  | .error _ => []

/-- The value of a variable in a witness is there and is 0 or 1. -/
def IsBit (witness : List (Element F)) (index : Nat) : Prop :=
  witness[index]? = some 0 ∨ witness[index]? = some 1

theorem isBit_of_assignment {witness : List (Element F)} {index : Nat}
    (hindex : index < witness.length)
    (hvalue : assignment witness index = 0 ∨ assignment witness index = 1) :
    IsBit witness index := by
  rw [IsBit, getElem?_eq_some_assignment hindex, Option.some.injEq, Option.some.injEq]
  exact hvalue

theorem System.FlagsHold.boolean {system : System F} {left right : Nat}
    {assigned : Nat → Element F} (hflags : system.FlagsHold left right assigned) :
    (assigned (system.equalFlag left right) = 0 ∨ assigned (system.equalFlag left right) = 1) ∧
      (assigned (system.numVars + 2) = 0 ∨ assigned (system.numVars + 2) = 1) := by
  rw [hflags.equal_eq_ite, hflags.notEqual_eq_ite]
  by_cases hsame : assigned left = assigned right
  · simp [hsame]
  · simp [hsame]

namespace Accepted

variable {system : System F} {operation : Operation} {plan : Plan F}

/-- A variable is only given as 0 or 1 by an operation that forces it to be so. -/
theorem marked_boolean (haccepted : Accepted system operation plan) {assigned : Nat → Element F}
    (hforces : plan.change.Forces system assigned) :
    ∀ bit ∈ (plan.report system).marked, bit.index < (plan.change.apply system).numVars ∧
      (assigned bit.index = 0 ∨ assigned bit.index = 1) := by
  have hequal (left right : Nat) := system.equalFlag_lt_numVars_addFlags left right
  have hnotEqual (left right : Nat) :=
    (system.numVars_add_three_le_equalFlag left right).trans_lt (hequal left right)
  cases haccepted with
  | insertBooleanGate hphase hindex =>
      exact List.forall_mem_singleton.mpr ⟨hindex.2, (Row.holds_boolean _ _).mp hforces⟩
  | isEqual hphase hfound =>
      exact List.forall_mem_singleton.mpr ⟨hequal _ _, hforces.boolean.1⟩
  | isNotEqual hphase hfound =>
      exact List.forall_mem_singleton.mpr
        ⟨(Nat.lt_succ_self _).trans (hnotEqual _ _), hforces.boolean.2⟩
  | isEqualOrNotEqual hphase hfound =>
      refine List.forall_mem_cons.mpr ⟨⟨hequal _ _, hforces.boolean.1⟩, ?_⟩
      exact List.forall_mem_singleton.mpr
        ⟨(Nat.lt_succ_self _).trans (hnotEqual _ _), hforces.boolean.2⟩
  | rangeCheck hphase hindex hcount htwo =>
      obtain ⟨value, _, _, hvalues⟩ := hforces
      rw [← List.range'_append_1, List.map_append] at hvalues
      obtain ⟨hdigits, _⟩ := List.append_inj hvalues (by simp)
      intro bit hbit
      obtain ⟨index, hindex, rfl⟩ := List.mem_map.mp hbit
      refine ⟨?_, Element.eq_zero_or_one_of_mem_digits (hdigits ▸ List.mem_map_of_mem hindex)⟩
      have hlt := (List.mem_range'_1.mp hindex).2
      rw [Change.apply, System.addDigits, System.numVars_grow, length_digitValues]
      exact Nat.lt_of_lt_of_le hlt (by omega)
  | _ => exact List.forall_mem_nil _

/-- What a selection adds is computed from the three variables that it names. -/
theorem selection_eq {var0 var1 control : Value}
    (haccepted : Accepted system (.select var0 var1 control) plan) :
    ∃ first second bit, system.Names var0 first ∧ system.Names var1 second ∧
      system.Names control bit ∧ plan.report system = .index system.numVars ∧
      system.numVars < (plan.change.apply system).numVars ∧
      ∀ assigned, plan.change.Forces system assigned → assigned system.numVars =
        assigned first + assigned bit * (assigned second - assigned first) := by
  cases haccepted with
  | select hphase hfound =>
      simp only [List.forall₂_cons] at hfound
      obtain ⟨hbit, hfirst, hsecond, _⟩ := hfound
      exact ⟨_, _, _, hfirst, hsecond, hbit, rfl, Nat.lt_succ_self _, fun _ hforces => hforces⟩

end Accepted

namespace Operation

variable {quotient : QuotientDomain} {operations : List Operation} {witness : List (Element F)}
  {publicInputs : List (Element F)}

theorem isBit_of_marked
    (haccepts : ((System.empty F quotient).after operations).Accepts witness publicInputs)
    {call : Call F} (hcall : call ∈ calls operations (System.empty F quotient)) {bit : BoolVar}
    (hbit : bit ∈ call.marked) : IsBit witness bit.index := by
  have hsucceeded : call.Succeeded := by
    rw [Call.marked] at hbit
    rw [Call.Succeeded]
    cases houtcome : call.outcome with
    | error refusal =>
        rw [houtcome] at hbit
        cases hbit
    | ok outcome => rfl
  obtain ⟨plan, haccepted, houtcome, hnumVars, hforces⟩ :=
    (System.wellFormed_empty F quotient).accepted_of_mem_calls hcall hsucceeded
  rw [Call.marked, houtcome] at hbit
  obtain ⟨hindex, hvalue⟩ :=
    haccepted.marked_boolean (hforces _ haccepts.satisfied) bit hbit
  exact isBit_of_assignment (haccepts.length_eq ▸ hindex.trans_le hnumVars) hvalue

/-- Every variable that a call of a run gave back as forced to be 0 or 1 is so in every
accepted witness of the final system, and a selection controlled by such a variable is
the first or the second variable accordingly. -/
theorem boolVars_boolean (quotient : QuotientDomain) {operations : List Operation}
    {given givenInputs : Value} {witness : List (Element F)}
    (hwitness : given.elements F = .ok witness)
    (hverify : ((System.empty F quotient).after operations).matrix.verify given givenInputs =
      .ok ()) :
    (∀ call ∈ calls operations (System.empty F quotient), ∀ bit ∈ call.marked,
      IsBit witness bit.index) ∧
    ∀ call ∈ calls operations (System.empty F quotient), ∀ var0 var1 control output,
      call.operation = .select var0 var1 control → call.outcome = .ok (.index output) →
      ∀ marking ∈ calls operations (System.empty F quotient), ∀ bit ∈ marking.marked,
        control.index? = some (bit.index : Int) →
        ∃ first second, call.before.Names var0 first ∧ call.before.Names var1 second ∧
          output < witness.length ∧
          (witness[bit.index]? = some 0 ∧ witness[output]? = witness[first]? ∨
            witness[bit.index]? = some 1 ∧ witness[output]? = witness[second]?) := by
  have hempty := System.wellFormed_empty F quotient
  obtain ⟨inputs, _, haccepts⟩ :=
    System.exists_accepts_of_verify (hempty.after operations) hwitness hverify
  have hbits : ∀ call ∈ calls operations (System.empty F quotient), ∀ bit ∈ call.marked,
      IsBit witness bit.index :=
    fun call hcall bit hbit => isBit_of_marked haccepts hcall hbit
  refine ⟨hbits, ?_⟩
  intro call hcall var0 var1 control output hoperation houtcome marking hmarking bit hbit hcontrol
  have hsucceeded : call.Succeeded := by
    rw [Call.Succeeded, houtcome]
    rfl
  obtain ⟨plan, haccepted, hreport, hnumVars, hforces⟩ :=
    hempty.accepted_of_mem_calls hcall hsucceeded
  rw [hoperation] at haccepted
  obtain ⟨first, second, index, hfirst, hsecond, hindex, hindexed, hlt, hvalue⟩ :=
    haccepted.selection_eq
  have hsame : index = bit.index := by
    exact_mod_cast Option.some.inj (hindex.1.symm.trans hcontrol)
  have houtput : call.before.numVars = output := by
    rw [houtcome, hindexed] at hreport
    cases hreport
    rfl
  have hbound : call.before.numVars < witness.length :=
    haccepts.length_eq ▸ hlt.trans_le hnumVars
  have hselected := hvalue _ (hforces _ haccepts.satisfied)
  refine ⟨first, second, hfirst, hsecond, houtput ▸ hbound, ?_⟩
  rw [← houtput, getElem?_eq_some_assignment hbound, hselected, hsame,
    getElem?_eq_some_assignment (hfirst.2.trans hbound),
    getElem?_eq_some_assignment (hsecond.2.trans hbound), Option.some.injEq, Option.some.injEq]
  rcases hbits marking hmarking bit hbit with hzero | hone
  · left
    have hassigned : assignment witness bit.index = 0 := by
      rw [assignment, List.getD_eq_getElem?_getD, hzero, Option.getD_some]
    exact ⟨hzero, by rw [hassigned, zero_mul, add_zero]⟩
  · right
    have hassigned : assignment witness bit.index = 1 := by
      rw [assignment, List.getD_eq_getElem?_getD, hone, Option.getD_some]
    exact ⟨hone, by rw [hassigned, one_mul, add_sub_cancel]⟩

/-- A run that selects by the flag of a comparison and checks the range of the result. -/
def controlled : List Operation :=
  [newVariable (.int 3), newVariable (.int 7), isEqual (.int 0) (.int 0),
    select (.int 1) (.int 0) (.int 6), rangeCheck (.int 8) (.int 2), pad]

/-- A witness of the run, with an inverse of zero that is not the stored one. -/
def controlledWitness : List (Element .goldilocks) :=
  [3, 7, 0, 5, 0, 1, 1, 0, 3, 1, 1].map (Element.ofNat .goldilocks)

/-- The flag and both digits are 0 or 1, and the flag decides what is selected. -/
theorem boolVars_boolean_controlled :
    ((System.empty .goldilocks {}).after controlled).matrix.verify
        (.ofElements controlledWitness) (.list []) = .ok () ∧
      (∀ index ∈ [6, 9, 10], IsBit controlledWitness index) ∧
      (controlledWitness[6]? = some 0 ∧ controlledWitness[8]? = controlledWitness[1]? ∨
        controlledWitness[6]? = some 1 ∧ controlledWitness[8]? = controlledWitness[0]?) := by
  have hverify : ((System.empty .goldilocks {}).after controlled).matrix.verify
      (.ofElements controlledWitness) (.list []) = .ok () := by
    decide +kernel
  obtain ⟨hbits, hselections⟩ :=
    boolVars_boolean {} (Value.elements_ofElements controlledWitness) hverify
  have hmarked : ∀ index ∈ [6, 9, 10], ∃ call ∈ calls controlled (System.empty .goldilocks {}),
      ⟨index⟩ ∈ call.marked := by
    decide +kernel
  have houtcome : ((select (.int 1) (.int 0) (.int 6)).run
      ((System.empty .goldilocks {}).after (controlled.take 3))).1 = .ok (.index 8) := by
    decide +kernel
  have hcall : ⟨select (.int 1) (.int 0) (.int 6),
      (System.empty .goldilocks {}).after (controlled.take 3), .ok (.index 8)⟩ ∈
        calls controlled (System.empty .goldilocks {}) := by
    rw [← houtcome]
    exact mem_calls_append (controlled.take 3) _ (controlled.drop 4) _
  refine ⟨hverify, ?_, ?_⟩
  · intro index hindex
    obtain ⟨call, hcall, hbit⟩ := hmarked index hindex
    exact hbits call hcall ⟨index⟩ hbit
  · obtain ⟨marking, hmarking, hbit⟩ := hmarked 6 (by decide)
    obtain ⟨first, second, ⟨hfirst, _⟩, ⟨hsecond, _⟩, _, hselected⟩ :=
      hselections _ hcall _ _ _ _ rfl rfl marking hmarking ⟨6⟩ hbit rfl
    cases hfirst
    cases hsecond
    exact hselected

end Operation

end Plonkish
