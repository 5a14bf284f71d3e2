import Plonkish.Proofs.Matrix.Assignment
import Plonkish.Proofs.System.Acceptance

/-!
# What a grown system accepts

A system that has grown accepts what the earlier system accepted, continued by values of
the new variables and by inputs of the new bindings, as far as the new demands are met.
-/

namespace Plonkish

variable {F : BaseField}

namespace System

variable {system later : System F} {witness added inputs : List (Element F)}

theorem accepts_append_iff (hsystem : system.WellFormed)
    (hnumVars : later.numVars = system.numVars + added.length)
    (hbindings : later.bindings = system.bindings) {demand : (Nat → Element F) → Prop}
    (hsatisfied : ∀ assigned, later.Satisfied assigned ↔
      system.Satisfied assigned ∧ demand assigned) :
    later.Accepts (witness ++ added) inputs ↔
      system.Accepts witness inputs ∧ demand (assignment (witness ++ added)) := by
  have hcount : (witness ++ added).length = later.numVars ↔ witness.length = system.numVars := by
    rw [List.length_append, hnumVars, Nat.add_right_cancel_iff]
  have hagree (hlength : witness.length = system.numVars) : ∀ index < system.numVars,
      assignment (witness ++ added) index = assignment witness index :=
    fun index hindex => assignment_append_left added (hlength ▸ hindex)
  have hinputs (hlength : witness.length = system.numVars) :
      (later.bindings.map fun binding => assignment (witness ++ added) binding.boundVar) =
        system.bindings.map fun binding => assignment witness binding.boundVar := by
    rw [hbindings, List.map_inj_left]
    exact fun binding hbinding => hagree hlength _ (hsystem.boundVar_lt hbinding)
  constructor
  · intro haccepts
    have hlength := hcount.mp haccepts.length_eq
    obtain ⟨hearlier, hdemand⟩ := (hsatisfied _).mp haccepts.satisfied
    refine ⟨⟨hlength, (hsystem.satisfied_congr (hagree hlength)).mp hearlier, ?_⟩, hdemand⟩
    rw [haccepts.publicInputs_eq, hinputs hlength]
  · rintro ⟨haccepts, hdemand⟩
    have hlength := haccepts.length_eq
    have hearlier := (hsystem.satisfied_congr (hagree hlength)).mpr haccepts.satisfied
    refine ⟨hcount.mpr hlength, (hsatisfied _).mpr ⟨hearlier, hdemand⟩, ?_⟩
    rw [hinputs hlength, haccepts.publicInputs_eq]

variable {given continued givenInputs : Value}

/-- A witness that is continued by values of the new variables is accepted exactly if it was
accepted and the new demands are met. -/
theorem verify_append_iff (hsystem : system.WellFormed) (hlater : later.WellFormed)
    (hgiven : given.elements F = .ok witness)
    (hcontinued : continued.elements F = .ok (witness ++ added))
    (hnumVars : later.numVars = system.numVars + added.length)
    (hbindings : later.bindings = system.bindings) {demand : (Nat → Element F) → Prop}
    (hsatisfied : ∀ assigned, later.Satisfied assigned ↔
      system.Satisfied assigned ∧ demand assigned) :
    later.matrix.verify continued givenInputs = .ok () ↔
      system.matrix.verify given givenInputs = .ok () ∧
        demand (assignment (witness ++ added)) := by
  cases hinputs : givenInputs.elements F with
  | error refusal =>
      simp only [verify_eq_ok_iff hsystem, verify_eq_ok_iff hlater, hinputs, reduceCtorEq,
        false_and, and_false, exists_false]
  | ok inputs =>
      rw [verify_elements_iff hlater hcontinued hinputs, verify_elements_iff hsystem hgiven hinputs]
      exact accepts_append_iff hsystem hnumVars hbindings hsatisfied

/-- What is accepted with new variables is what was accepted before, continued. -/
theorem verify_iff_exists_append (hsystem : system.WellFormed) (hlater : later.WellFormed)
    {count : Nat} (hnumVars : later.numVars = system.numVars + count)
    (hbindings : later.bindings = system.bindings) {demand : (Nat → Element F) → Prop}
    (hsatisfied : ∀ assigned, later.Satisfied assigned ↔
      system.Satisfied assigned ∧ demand assigned) :
    later.matrix.verify continued givenInputs = .ok () ↔
      ∃ witness added : List (Element F), added.length = count ∧
        continued.elements F = .ok (witness ++ added) ∧
        system.matrix.verify (.ofElements witness) givenInputs = .ok () ∧
        demand (assignment (witness ++ added)) := by
  constructor
  · intro hverify
    obtain ⟨values, _, hcontinued, _, haccepts⟩ := (verify_eq_ok_iff hlater).mp hverify
    have hlength := haccepts.length_eq.trans hnumVars
    have hadded : (values.drop system.numVars).length = count := by
      rw [List.length_drop, hlength, Nat.add_sub_cancel_left]
    rw [← List.take_append_drop system.numVars values] at hcontinued
    refine ⟨_, _, hadded, hcontinued, ?_⟩
    exact (verify_append_iff hsystem hlater (Value.elements_ofElements _) hcontinued
      (by rw [hnumVars, hadded]) hbindings hsatisfied).mp hverify
  · rintro ⟨witness, added, rfl, hcontinued, haccepted⟩
    exact (verify_append_iff hsystem hlater (Value.elements_ofElements _) hcontinued hnumVars
      hbindings hsatisfied).mpr haccepted

/-- A row without new variables restricts what is accepted. -/
theorem verify_grow_row_iff (hsystem : system.WellFormed) {row : Row F}
    (hrow : ∀ index ∈ row.wires.toList, index < system.numVars) :
    (system.grow [] [row]).matrix.verify given givenInputs = .ok () ↔
      system.matrix.verify given givenInputs = .ok () ∧
        ∃ witness, given.elements F = .ok witness ∧ row.Holds (assignment witness) := by
  have hgrown := hsystem.grow_row hrow
  have hsatisfied (assigned : Nat → Element F) : (system.grow [] [row]).Satisfied assigned ↔
      system.Satisfied assigned ∧ row.Holds assigned := by
    rw [hsystem.satisfied_grow, List.forall_mem_singleton]
  cases hgiven : given.elements F with
  | error refusal =>
      simp only [verify_eq_ok_iff hsystem, verify_eq_ok_iff hgrown, hgiven, reduceCtorEq,
        false_and, exists_false, and_false]
  | ok witness =>
      have happend : given.elements F = .ok (witness ++ []) := by rw [hgiven, List.append_nil]
      rw [verify_append_iff hsystem hgrown hgiven happend rfl rfl hsatisfied, List.append_nil]
      simp only [Except.ok.injEq, exists_eq_left']

theorem accepts_bindPublic_iff {index : Nat} {input : Element F} :
    (system.bindPublic index).Accepts witness (inputs ++ [input]) ↔
      system.Accepts witness inputs ∧ input = assignment witness index := by
  have hbindings : (system.bindPublic index).bindings.map
      (fun binding => assignment witness binding.boundVar) =
      (system.bindings.map fun binding => assignment witness binding.boundVar) ++
        [assignment witness index] := by
    rw [bindPublic, List.map_append, List.map_singleton]
  constructor
  · intro haccepts
    have hinputs := haccepts.publicInputs_eq
    rw [hbindings] at hinputs
    obtain ⟨hearlier, hlast⟩ := List.append_inj' hinputs rfl
    exact ⟨⟨haccepts.length_eq, (satisfied_bindPublic system index _).mp haccepts.satisfied,
      hearlier⟩, List.singleton_inj.mp hlast⟩
  · rintro ⟨haccepts, rfl⟩
    refine ⟨haccepts.length_eq, (satisfied_bindPublic system index _).mpr haccepts.satisfied, ?_⟩
    rw [hbindings, haccepts.publicInputs_eq]

/-- A public input takes the value of its variable and demands nothing else. -/
theorem verify_bindPublic_iff (hsystem : system.WellFormed) {index : Nat}
    (hindex : index < system.numVars) {continuedInputs : Value} {input : Element F}
    (hinputs : givenInputs.elements F = .ok inputs)
    (hcontinued : continuedInputs.elements F = .ok (inputs ++ [input])) :
    (system.bindPublic index).matrix.verify given continuedInputs = .ok () ↔
      system.matrix.verify given givenInputs = .ok () ∧
        ∃ witness, given.elements F = .ok witness ∧ witness[index]? = some input := by
  have hbound := hsystem.bindPublic hindex
  cases hgiven : given.elements F with
  | error refusal =>
      simp only [verify_eq_ok_iff hsystem, verify_eq_ok_iff hbound, hgiven, reduceCtorEq,
        false_and, exists_false, and_false]
  | ok witness =>
      rw [verify_elements_iff hbound hgiven hcontinued, verify_elements_iff hsystem hgiven hinputs,
        accepts_bindPublic_iff]
      simp only [Except.ok.injEq, exists_eq_left']
      refine and_congr_right fun haccepts => ?_
      rw [getElem?_eq_some_assignment (haccepts.length_eq ▸ hindex), Option.some.injEq, eq_comm]

end System

end Plonkish
