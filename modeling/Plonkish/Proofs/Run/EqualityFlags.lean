import Plonkish.Proofs.Gadget.EqualityWitness
import Plonkish.Proofs.Run.Calls
import Plonkish.Proofs.System.Rejection

/-!
# What equality flags admit

The flags of two variables are right in every accepted witness, and every witness that
was accepted before can be continued to them: in one way where the variables differ, and
in one way for each value of the inverse where they are equal.  The last of the new rows
alone rules out flags that claim two different variables to be equal.
-/

namespace Plonkish

variable {F : BaseField}

namespace System

/-- A list of values is accepted that agrees with an assignment that satisfies the system. -/
theorem accepts_of_agree {system : System F} (hsystem : system.WellFormed)
    {values inputs : List (Element F)} {assigned : Nat → Element F}
    (hlength : values.length = system.numVars)
    (hagree : ∀ index < system.numVars, assignment values index = assigned index)
    (hsatisfied : system.Satisfied assigned)
    (hinputs : inputs = system.bindings.map fun binding => assigned binding.boundVar) :
    system.Accepts values inputs := by
  refine ⟨hlength, (hsystem.satisfied_congr hagree).mpr hsatisfied, ?_⟩
  rw [hinputs, List.map_inj_left]
  intro binding hbinding
  exact (hagree _ (hsystem.boundVar_lt hbinding)).symm

section Flags

variable {system : System F} {left right : Nat} {values inputs : List (Element F)}
  (hsystem : system.WellFormed) (hleft : left < system.numVars) (hright : right < system.numVars)

/-- The values with flags that claim two variables to be equal, without an inverse. -/
def forgeFlags (system : System F) (left right : Nat) (values : List (Element F)) :
    List (Element F) :=
  ((values.set (system.numVars + 1) 0).set (system.numVars + 2) 0).set
    (system.equalFlag left right) 1

include hsystem in
theorem map_withFlags_bindings (assigned : Nat → Element F) (inverse : Element F) :
    (system.bindings.map fun binding =>
        system.withFlags left right assigned inverse binding.boundVar) =
      system.bindings.map fun binding => assigned binding.boundVar := by
  rw [List.map_inj_left]
  intro binding hbinding
  exact withFlags_of_lt (hsystem.boundVar_lt hbinding)

include hsystem hleft hright

theorem Accepts.before_addFlags (haccepts : (system.addFlags left right).Accepts values inputs) :
    system.Satisfied (assignment values) ∧ system.FlagsHold left right (assignment values) ∧
      inputs = system.bindings.map fun binding => assignment values binding.boundVar := by
  obtain ⟨hsatisfied, hflags⟩ :=
    (hsystem.satisfied_addFlags hleft hright _).mp haccepts.satisfied
  have hinputs := haccepts.publicInputs_eq
  rw [bindings_addFlags] at hinputs
  exact ⟨hsatisfied, hflags, hinputs⟩

/-- In an accepted witness the flags tell whether the variables are equal. -/
theorem Accepts.flags_eq (haccepts : (system.addFlags left right).Accepts values inputs) :
    ∃ x y, values[left]? = some x ∧ values[right]? = some y ∧
      values[system.numVars]? = some (x - y) ∧
      values[(system.compare left right).reservedIndex .zero]? = some 0 ∧
      values[system.equalFlag left right]? = some (if x = y then 1 else 0) ∧
      values[system.numVars + 2]? = some (if x = y then 0 else 1) := by
  obtain ⟨_, hflags, _⟩ := haccepts.before_addFlags hsystem hleft hright
  have hlength := haccepts.length_eq
  have hle := system.numVars_add_three_le_equalFlag left right
  have hlt := system.equalFlag_lt_numVars_addFlags left right
  have hzero : (system.compare left right).reservedIndex .zero <
      (system.addFlags left right).numVars :=
    (hsystem.compare hleft hright).reservedIndex_lt .zero
  refine ⟨_, _, getElem?_eq_some_assignment (by omega), getElem?_eq_some_assignment (by omega),
    ?_, ?_, ?_, ?_⟩
  · rw [getElem?_eq_some_assignment (by omega), hflags.difference_eq]
  · rw [getElem?_eq_some_assignment (by omega), hflags.zero_eq]
  · rw [getElem?_eq_some_assignment (by omega), hflags.equal_eq_ite]
  · rw [getElem?_eq_some_assignment (by omega), hflags.notEqual_eq_ite]

/-- An accepted witness can be continued with any inverse for which the last row holds. -/
theorem Accepts.exists_addFlags (haccepts : system.Accepts values inputs) {inverse : Element F}
    (hinverse : assignment values left = assignment values right ∨
      (assignment values left - assignment values right) * inverse = 1) :
    ∃ added : List (Element F), added[1]? = some inverse ∧
      (system.addFlags left right).Accepts (values ++ added) inputs := by
  have hlength := haccepts.length_eq
  have hle := system.numVars_add_three_le_equalFlag left right
  have hlt := system.equalFlag_lt_numVars_addFlags left right
  obtain ⟨added, hcount, hagree⟩ := exists_append values
    ((system.addFlags left right).numVars - system.numVars)
    (system.withFlags left right (assignment values) inverse)
    fun index hindex => withFlags_of_lt (hlength ▸ hindex)
  have hagreed : ∀ index < (system.addFlags left right).numVars,
      assignment (values ++ added) index =
        system.withFlags left right (assignment values) inverse index :=
    fun index hindex => hagree index (by omega)
  refine ⟨added, ?_, accepts_of_agree (hsystem.addFlags hleft hright) ?_ hagreed
    (satisfied_addFlags_withFlags hsystem haccepts.satisfied hleft hright hinverse) ?_⟩
  · rw [getElem?_eq_some_append values (by omega), hlength,
      hagreed _ (by omega), withFlags_inverse]
  · rw [List.length_append]
    omega
  · rw [bindings_addFlags, map_withFlags_bindings hsystem]
    exact haccepts.publicInputs_eq

/-- Continuations that are accepted differ in the inverse only, and only where the
variables are equal. -/
theorem Accepts.addFlags_unique (hvalues : values.length = system.numVars)
    {added other : List (Element F)}
    (hadded : (system.addFlags left right).Accepts (values ++ added) inputs)
    (hother : (system.addFlags left right).Accepts (values ++ other) inputs)
    (hinverse : assignment values left = assignment values right → added[1]? = other[1]?) :
    added = other := by
  have hadd := hadded.length_eq
  have hoth := hother.length_eq
  rw [List.length_append, hvalues] at hadd hoth
  have hle := system.numVars_add_three_le_equalFlag left right
  have hlt := system.equalFlag_lt_numVars_addFlags left right
  obtain ⟨_, hflags, _⟩ := hadded.before_addFlags hsystem hleft hright
  obtain ⟨_, hflags', _⟩ := hother.before_addFlags hsystem hleft hright
  have hold : ∀ index < system.numVars,
      assignment (values ++ added) index = assignment (values ++ other) index := by
    intro index hindex
    rw [assignment_append_left added (hvalues ▸ hindex),
      assignment_append_left other (hvalues ▸ hindex)]
  apply append_inj_of_agree values (by omega)
  intro index hnew hindex
  rw [hvalues] at hnew hindex
  rcases hflags.agree hflags' (hold left hleft) (hold right hright) hnew (by omega) with
    hagree | ⟨rfl, hequal⟩
  · exact hagree
  · rw [assignment_append_left added (hvalues ▸ hleft),
      assignment_append_left added (hvalues ▸ hright)] at hequal
    -- the inverse is the second of the added values
    have hsame := hinverse hequal
    rw [getElem?_eq_some_append values (by omega), getElem?_eq_some_append values (by omega),
      Option.some.injEq, hvalues] at hsame
    exact hsame

/-- Forged flags are what follows from zero in the place of the inverse. -/
theorem Accepts.assignment_forgeFlags
    (haccepts : (system.addFlags left right).Accepts values inputs) :
    ∀ index < (system.addFlags left right).numVars,
      assignment (system.forgeFlags left right values) index =
        system.withFlags left right (assignment values) 0 index := by
  obtain ⟨hsatisfied, hflags, _⟩ := haccepts.before_addFlags hsystem hleft hright
  have hlength := haccepts.length_eq
  have hle := system.numVars_add_three_le_equalFlag left right
  have hlt := system.equalFlag_lt_numVars_addFlags left right
  intro index hindex
  rw [forgeFlags, assignment_set _ (by simp only [List.length_set]; omega),
    assignment_set _ (by rw [List.length_set]; omega), assignment_set _ (by omega)]
  by_cases hequal : index = system.equalFlag left right
  · rw [if_pos hequal, hequal, withFlags_equal, mul_zero, sub_zero]
  by_cases hnotEqual : index = system.numVars + 2
  · rw [if_neg hequal, if_pos hnotEqual, hnotEqual, withFlags_notEqual, mul_zero]
  by_cases hinverse : index = system.numVars + 1
  · rw [if_neg hequal, if_neg hnotEqual, if_pos hinverse, hinverse, withFlags_inverse]
  · rw [if_neg hequal, if_neg hnotEqual, if_neg hinverse,
      hflags.withFlags_eq hsystem hsatisfied hleft hright hindex hinverse hnotEqual hequal]

/-- Flags that claim different variables to be equal fail in the last row only. -/
theorem Accepts.unsatisfiedRows_forgeFlags
    (haccepts : (system.addFlags left right).Accepts values inputs)
    (hdiffer : assignment values left ≠ assignment values right) {givenInputs : Value}
    (hinputs : givenInputs.elements F = .ok inputs) :
    (system.addFlags left right).matrix.unsatisfiedRows
        (.ofElements (system.forgeFlags left right values)) givenInputs =
      .ok [(system.addFlags left right).size - 1] := by
  obtain ⟨hsatisfied, hflags, hbound⟩ := haccepts.before_addFlags hsystem hleft hright
  have hagree := haccepts.assignment_forgeFlags hsystem hleft hright
  have hcompared := (hsystem.compare hleft hright).reserve .zero
  have hbindings : ((system.compare left right).reserve .zero).bindings = system.bindings :=
    system.bindings_addFlags left right
  -- only the last row tells the forged values from values that are accepted
  have hforged : ((system.compare left right).reserve .zero).Accepts
      (system.forgeFlags left right values) inputs := by
    refine accepts_of_agree hcompared ?_ hagree
      (satisfied_reserve_compare_withFlags hsystem hsatisfied hleft hright) ?_
    · simp only [forgeFlags, List.length_set]
      exact haccepts.length_eq
    · rw [hbindings, map_withFlags_bindings hsystem, hbound]
  have hwires : ∀ index ∈ (system.lastFlagRow left right).wires.toList,
      index < (system.addFlags left right).numVars :=
    (hsystem.addFlags hleft hright).wires_lt _ (List.mem_append_right _ List.mem_cons_self)
  have hlast : ¬ (system.lastFlagRow left right).Holds
      (assignment (system.forgeFlags left right values)) := by
    rw [Row.holds_congr fun index hindex => hagree index (hwires index hindex),
      holds_lastFlagRow_iff hsystem hsatisfied hleft hright, mul_zero]
    exact not_or_intro hdiffer zero_ne_one
  have hsize : (system.addFlags left right).size - 1 =
      ((system.compare left right).reserve .zero).size := by
    rw [size, rows_addFlags, List.length_append, List.length_singleton, Nat.add_sub_cancel, size]
  rw [hsize]
  exact unsatisfiedRows_grow_row hcompared hwires hforged hlast (Value.elements_ofElements _)
    hinputs

end Flags

end System

namespace Operation

theorem run_isEqualOrNotEqual {system : System F} (hsystem : system.WellFormed)
    (hphase : system.phase = .building) {leftIndex rightIndex : Value} {left right : Nat}
    (hleft : system.Names leftIndex left) (hright : system.Names rightIndex right) :
    (isEqualOrNotEqual leftIndex rightIndex).run system =
      (.ok (.flags ⟨⟨system.equalFlag left right⟩, ⟨system.numVars + 2⟩⟩),
        system.addFlags left right) := by
  have hplan : (isEqualOrNotEqual leftIndex rightIndex).plan system =
      .ok (.flags left right .flags) :=
    System.planBinary_of_names hphase (.cons hleft (.cons hright .nil)) _
  exact run_of_plan hsystem hplan

/-- Equality flags are sound and complete on every system that was built.  In an accepted
witness they tell whether the variables are equal.  An accepted witness of the earlier
system has one continuation where the variables differ, and one for each value of the
inverse, the second new variable, where they are equal.  The last row, which says that
the difference times the flag for equality is zero, is the only one that does not hold
of forged flags. -/
theorem isEqualOrNotEqual_exact (quotient : QuotientDomain) (operations : List Operation)
    {system : System F} (hreached : (System.empty F quotient).after operations = system)
    (hphase : system.phase = .building) {leftIndex rightIndex : Value} {left right : Nat}
    (hleft : system.Names leftIndex left) (hright : system.Names rightIndex right) :
    ∃ equal notEqual zeroIndex after,
      (isEqualOrNotEqual leftIndex rightIndex).run system =
        (.ok (.flags ⟨⟨equal⟩, ⟨notEqual⟩⟩), after) ∧
      after.rows.getLast? = some (.product system.numVars equal zeroIndex) ∧
      (∀ given givenInputs witness, given.elements F = .ok witness →
        after.matrix.verify given givenInputs = .ok () →
        ∃ x y, witness[left]? = some x ∧ witness[right]? = some y ∧
          witness[system.numVars]? = some (x - y) ∧ witness[zeroIndex]? = some 0 ∧
          witness[equal]? = some (if x = y then 1 else 0) ∧
          witness[notEqual]? = some (if x = y then 0 else 1)) ∧
      (∀ given givenInputs witness, given.elements F = .ok witness →
        system.matrix.verify given givenInputs = .ok () →
        (witness[left]? ≠ witness[right]? → ∃! added : List (Element F),
          after.matrix.verify (.ofElements (witness ++ added)) givenInputs = .ok ()) ∧
        (witness[left]? = witness[right]? → ∀ inverse, ∃! added : List (Element F),
          added[1]? = some inverse ∧
            after.matrix.verify (.ofElements (witness ++ added)) givenInputs = .ok ())) ∧
      (∀ given givenInputs witness, given.elements F = .ok witness →
        after.matrix.verify given givenInputs = .ok () → witness[left]? ≠ witness[right]? →
        after.matrix.unsatisfiedRows
            (.ofElements (((witness.set (system.numVars + 1) 0).set notEqual 0).set equal 1))
            givenInputs = .ok [after.size - 1]) := by
  have hsystem : system.WellFormed :=
    hreached ▸ (System.wellFormed_empty F quotient).after operations
  have hl := hleft.2
  have hr := hright.2
  have hflagged := hsystem.addFlags hl hr
  refine ⟨system.equalFlag left right, system.numVars + 2,
    (system.compare left right).reservedIndex .zero, system.addFlags left right,
    run_isEqualOrNotEqual hsystem hphase hleft hright, ?_, ?_, ?_, ?_⟩
  · rw [System.rows_addFlags, List.getLast?_append, List.getLast?_singleton]
    rfl
  · intro given givenInputs witness hwitness hverify
    obtain ⟨inputs, _, haccepts⟩ := System.exists_accepts_of_verify hflagged hwitness hverify
    exact haccepts.flags_eq hsystem hl hr
  · intro given givenInputs witness hwitness hverify
    obtain ⟨inputs, hinputs, haccepts⟩ := System.exists_accepts_of_verify hsystem hwitness hverify
    have hlength := haccepts.length_eq
    simp only [ne_eq, getElem?_eq_getElem?_iff (hlength ▸ hl) (hlength ▸ hr),
      System.verify_elements_iff hflagged (Value.elements_ofElements _) hinputs]
    constructor
    · intro hdiffer
      obtain ⟨added, _, hadded⟩ := haccepts.exists_addFlags hsystem hl hr
        (Or.inr (mul_inv_cancel₀ (sub_ne_zero.mpr hdiffer)))
      refine ⟨added, hadded, fun other hother => ?_⟩
      exact hother.addFlags_unique hsystem hl hr hlength hadded fun hequal => absurd hequal hdiffer
    · intro hequal inverse
      obtain ⟨added, hinverse, hadded⟩ := haccepts.exists_addFlags hsystem hl hr (Or.inl hequal)
      refine ⟨added, ⟨hinverse, hadded⟩, fun other hother => ?_⟩
      exact hother.2.addFlags_unique hsystem hl hr hlength hadded
        fun _ => hother.1.trans hinverse.symm
  · intro given givenInputs witness hwitness hverify hdiffer
    obtain ⟨inputs, hinputs, haccepts⟩ := System.exists_accepts_of_verify hflagged hwitness hverify
    have hle := system.numVars_add_three_le_equalFlag left right
    have hlt := system.equalFlag_lt_numVars_addFlags left right
    have hlength := haccepts.length_eq
    rw [ne_eq, getElem?_eq_getElem?_iff (by omega) (by omega)] at hdiffer
    exact haccepts.unsatisfiedRows_forgeFlags hsystem hl hr hdiffer hinputs

/-- Two variables without a row: different values leave no choice, equal ones leave the
inverse. -/
theorem isEqualOrNotEqual_exact_unconstrained :
    ((System.empty .goldilocks {}).after
        [newVariable (.int 3), newVariable (.int 7)]).phase = .building ∧
      ((System.empty .goldilocks {}).after
        [newVariable (.int 3), newVariable (.int 7)]).Names (.int 0) 0 ∧
      ((System.empty .goldilocks {}).after
        [newVariable (.int 3), newVariable (.int 7)]).Names (.int 1) 1 ∧
      ∃ flags after, (isEqualOrNotEqual (.int 0) (.int 1)).run
          ((System.empty .goldilocks {}).after [newVariable (.int 3), newVariable (.int 7)]) =
          (.ok (.flags flags), after) ∧
        (∃! added : List (Element .goldilocks),
          after.matrix.verify (.ofElements ([3, 7] ++ added)) (.list []) = .ok ()) ∧
        ∀ inverse, ∃! added : List (Element .goldilocks), added[1]? = some inverse ∧
          after.matrix.verify (.ofElements ([7, 7] ++ added)) (.list []) = .ok () := by
  have hleft : ((System.empty .goldilocks {}).after
      [newVariable (.int 3), newVariable (.int 7)]).Names (.int 0) 0 :=
    ⟨rfl, by decide +kernel⟩
  have hright : ((System.empty .goldilocks {}).after
      [newVariable (.int 3), newVariable (.int 7)]).Names (.int 1) 1 :=
    ⟨rfl, by decide +kernel⟩
  obtain ⟨equal, notEqual, _, after, hrun, _, _, hcomplete, _⟩ :=
    isEqualOrNotEqual_exact {} _ rfl rfl hleft hright
  refine ⟨rfl, hleft, hright, _, after, hrun, ?_, ?_⟩
  · have hverify : ((System.empty .goldilocks {}).after [newVariable (.int 3),
        newVariable (.int 7)]).matrix.verify (.list [.int 3, .int 7]) (.list []) = .ok () := by
      decide +kernel
    exact (hcomplete _ _ [3, 7] (by decide +kernel) hverify).1 (by decide)
  · have hverify : ((System.empty .goldilocks {}).after [newVariable (.int 3),
        newVariable (.int 7)]).matrix.verify (.list [.int 7, .int 7]) (.list []) = .ok () := by
      decide +kernel
    exact (hcomplete _ _ [7, 7] (by decide +kernel) hverify).2 rfl

end Operation

end Plonkish
