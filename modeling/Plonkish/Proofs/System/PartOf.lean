import Plonkish.Proofs.Operation.Change
import Plonkish.Proofs.System.Acceptance

/-!
# Systems as parts of later ones

A system is part of a later one if the later one was made from it by appending rows,
variables and bindings only.  Every change leaves the system that it meets as a part of
its result.  What a later system accepts was accepted all along: the old rows mention old
variables only, and the public inputs of the old bindings come first.
-/

namespace Plonkish

variable {F : BaseField}

namespace System

/-- The later system begins with the rows, bindings and values of the earlier one. -/
structure PartOf (earlier later : System F) : Prop where
  rows_prefix : earlier.rows <+: later.rows
  bindings_prefix : earlier.bindings <+: later.bindings
  numVars_le : earlier.numVars ≤ later.numVars
  /-- Values are not put back once they were taken out. -/
  proving : earlier.phase = .proving → later.phase = .proving
  witness_prefix : later.phase ≠ .proving → earlier.witness <+: later.witness

namespace PartOf

theorem refl (system : System F) : system.PartOf system :=
  ⟨List.prefix_rfl, List.prefix_rfl, Nat.le_refl _, id, fun _ => List.prefix_rfl⟩

theorem trans {first second third : System F} (hfirst : first.PartOf second)
    (hsecond : second.PartOf third) : first.PartOf third where
  rows_prefix := hfirst.rows_prefix.trans hsecond.rows_prefix
  bindings_prefix := hfirst.bindings_prefix.trans hsecond.bindings_prefix
  numVars_le := hfirst.numVars_le.trans hsecond.numVars_le
  proving := hsecond.proving ∘ hfirst.proving
  witness_prefix hphase :=
    (hfirst.witness_prefix (hphase ∘ hsecond.proving)).trans (hsecond.witness_prefix hphase)

end PartOf

section Parts

variable (system : System F)

theorem partOf_grow (values : List (Element F)) (rows : List (Row F)) :
    system.PartOf (system.grow values rows) where
  rows_prefix := List.prefix_append _ _
  bindings_prefix := List.prefix_rfl
  numVars_le := Nat.le_add_right _ _
  proving := id
  witness_prefix _ := List.prefix_append _ _

theorem partOf_remember (index : Nat) (constant : Reserved) :
    system.PartOf (system.remember index constant) := by
  cases constant <;> exact ⟨List.prefix_rfl, List.prefix_rfl, Nat.le_refl _, id,
    fun _ => List.prefix_rfl⟩

theorem partOf_reserve (constant : Reserved) : system.PartOf (system.reserve constant) := by
  cases hreserved : system.reserved? constant with
  | some index =>
      rw [reserve_of_some hreserved]
      exact .refl system
  | none =>
      rw [reserve_of_none hreserved]
      exact (system.partOf_grow _ _).trans (partOf_remember _ _ _)

theorem partOf_bindPublic (index : Nat) : system.PartOf (system.bindPublic index) :=
  { system.partOf_grow [] [.constant index 0] with
    bindings_prefix := List.prefix_append _ _ }

theorem partOf_define (formula : Formula F) : system.PartOf (system.define formula) :=
  system.partOf_grow _ _

theorem partOf_equate (left right : Nat) : system.PartOf (system.equate left right) :=
  (system.partOf_reserve .zero).trans (partOf_grow _ _ _)

theorem partOf_addFlags (left right : Nat) : system.PartOf (system.addFlags left right) := by
  have hinverted : system.PartOf (system.invertDifference left right) :=
    ((system.partOf_define _).trans (partOf_grow _ _ _)).trans (partOf_define _ _)
  have hcompared : system.PartOf (system.compare left right) :=
    (hinverted.trans (partOf_reserve _ .one)).trans (partOf_define _ _)
  exact (hcompared.trans (partOf_reserve _ .zero)).trans (partOf_grow _ _ _)

theorem partOf_padded (hphase : system.phase ≠ .proving) : system.PartOf system.padded := by
  have hinhabited : system.PartOf system.inhabited := by
    by_cases hnumVars : system.numVars = 0
    · rw [inhabited_of_eq_zero hnumVars]
      exact system.partOf_reserve .zero
    · rw [inhabited_of_ne_zero hnumVars]
      exact .refl system
  have hgrown := hinhabited.trans (partOf_grow _ [] system.inhabited.paddingRows)
  exact {
    rows_prefix := hgrown.rows_prefix
    bindings_prefix := hgrown.bindings_prefix
    numVars_le := hgrown.numVars_le
    proving := fun hproving => absurd hproving hphase
    witness_prefix := fun _ => hgrown.witness_prefix (by rwa [phase_grow, phase_inhabited]) }

theorem partOf_taken : system.PartOf system.taken where
  rows_prefix := List.prefix_rfl
  bindings_prefix := List.prefix_rfl
  numVars_le := Nat.le_refl _
  proving _ := rfl
  witness_prefix hphase := absurd rfl hphase

end Parts

end System

/-- A change only appends. -/
theorem Change.partOf_apply {system : System F} {change : Change F}
    (hlegal : change.Legal system) : system.PartOf (change.apply system) := by
  cases change with
  | keep => exact .refl system
  | inputs values => exact system.partOf_grow values []
  | reserve constant => exact system.partOf_reserve constant
  | row inserted => exact system.partOf_grow [] [inserted]
  | publicInput index => exact system.partOf_bindPublic index
  | pad => exact system.partOf_padded hlegal
  | takeWitness => exact system.partOf_taken
  | formula defining => exact system.partOf_define defining
  | equation left right => exact system.partOf_equate left right
  | flags left right => exact system.partOf_addFlags left right
  | digits checked count => exact system.partOf_grow _ _

namespace System

/-- What a later system accepts begins with what its part accepts, provided that the
gates of the part are gates of the later system. -/
theorem PartOf.accepts_take {earlier later : System F} (hpart : earlier.PartOf later)
    (hearlier : earlier.WellFormed) {witness inputs : List (Element F)}
    (hsatisfied : earlier.Satisfied (assignment witness)) (haccepts : later.Accepts witness inputs) :
    earlier.Accepts (witness.take earlier.numVars) (inputs.take earlier.bindings.length) := by
  have hagree : ∀ index < earlier.numVars,
      assignment (witness.take earlier.numVars) index = assignment witness index :=
    fun index hindex => assignment_take witness hindex
  refine ⟨?_, (hearlier.satisfied_congr hagree).mpr hsatisfied, ?_⟩
  · rw [List.length_take, haccepts.length_eq]
    exact Nat.min_eq_left hpart.numVars_le
  · obtain ⟨added, hadded⟩ := hpart.bindings_prefix
    rw [haccepts.publicInputs_eq, ← List.map_take, ← hadded, List.take_left, List.map_inj_left]
    intro binding hbinding
    exact (hagree _ (hearlier.boundVar_lt hbinding)).symm

end System

end Plonkish
