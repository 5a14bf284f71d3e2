import Plonkish.Proofs.System.WellFormed

/-!
# Completion of a system

A system is completed by padding its rows and by taking out its witness.  Padding adds
rows that hold for every witness, after a reserved variable if there is no variable
that they could carry.  Taking out the witness leaves what has to be satisfied as it is.
-/

namespace Plonkish

variable {F : BaseField}

namespace System

/-- The system that padding starts from, which has a variable. -/
def inhabited (system : System F) : System F :=
  if system.numVars = 0 then system.reserve .zero else system

def paddingRows (system : System F) : List (Row F) :=
  List.replicate (Builder.nextPowerOfTwo system.size - system.size) .padding

def padded (system : System F) : System F :=
  { system.inhabited.grow [] system.inhabited.paddingRows with phase := .padded }

def taken (system : System F) : System F :=
  { system with witness := [], phase := .proving }

section Inhabited

variable {system : System F}

theorem inhabited_of_eq_zero (hnumVars : system.numVars = 0) :
    system.inhabited = system.reserve .zero := if_pos hnumVars

theorem inhabited_of_ne_zero (hnumVars : system.numVars ≠ 0) :
    system.inhabited = system := if_neg hnumVars

end Inhabited

@[simp]
theorem phase_inhabited (system : System F) : system.inhabited.phase = system.phase := by
  by_cases hnumVars : system.numVars = 0
  · rw [inhabited_of_eq_zero hnumVars, phase_reserve]
  · rw [inhabited_of_ne_zero hnumVars]

@[simp]
theorem bindings_inhabited (system : System F) :
    system.inhabited.bindings = system.bindings := by
  by_cases hnumVars : system.numVars = 0
  · rw [inhabited_of_eq_zero hnumVars, bindings_reserve]
  · rw [inhabited_of_ne_zero hnumVars]

theorem numVars_le_inhabited (system : System F) :
    system.numVars ≤ system.inhabited.numVars := by
  by_cases hnumVars : system.numVars = 0
  · rw [hnumVars]
    exact Nat.zero_le _
  · rw [inhabited_of_ne_zero hnumVars]

theorem holds_paddingRows (system : System F) (assigned : Nat → Element F) :
    ∀ row ∈ system.paddingRows, row.Holds assigned := by
  intro row hrow
  rw [List.eq_of_mem_replicate hrow]
  exact Row.holds_padding assigned

namespace WellFormed

variable {system : System F}

theorem inhabited (hsystem : system.WellFormed) : system.inhabited.WellFormed := by
  by_cases hnumVars : system.numVars = 0
  · rw [inhabited_of_eq_zero hnumVars]
    exact hsystem.reserve .zero
  · rw [inhabited_of_ne_zero hnumVars]
    exact hsystem

theorem numVars_inhabited_pos (hsystem : system.WellFormed) : 0 < system.inhabited.numVars := by
  by_cases hnumVars : system.numVars = 0
  · rw [inhabited_of_eq_zero hnumVars]
    exact Nat.zero_lt_of_lt (hsystem.reservedIndex_lt .zero)
  · rw [inhabited_of_ne_zero hnumVars]
    exact Nat.pos_of_ne_zero hnumVars

theorem satisfied_inhabited (hsystem : system.WellFormed) (assigned : Nat → Element F) :
    system.inhabited.Satisfied assigned ↔
      system.Satisfied assigned ∧
        (system.numVars = 0 → assigned (system.reservedIndex .zero) = 0) := by
  by_cases hnumVars : system.numVars = 0
  · rw [inhabited_of_eq_zero hnumVars, hsystem.satisfied_reserve, Reserved.value,
      forall_prop_of_true hnumVars]
  · rw [inhabited_of_ne_zero hnumVars, forall_prop_of_false hnumVars, and_true]

theorem honest_inhabited (hsystem : system.WellFormed) (hphase : system.phase ≠ .proving) :
    system.inhabited.Honest ↔ system.Honest := by
  by_cases hnumVars : system.numVars = 0
  · rw [inhabited_of_eq_zero hnumVars, hsystem.honest_reserve hphase .zero]
  · rw [inhabited_of_ne_zero hnumVars]

theorem wires_paddingRows_lt (hsystem : system.WellFormed) :
    ∀ row ∈ system.inhabited.paddingRows, ∀ index ∈ row.wires.toList,
      index < system.inhabited.numVars := by
  intro row hrow index hindex
  rw [List.eq_of_mem_replicate hrow] at hindex
  have hzero : index = 0 := by
    simpa [Row.padding, Wires.replicate, Wires.toList] using hindex
  rw [hzero]
  exact hsystem.numVars_inhabited_pos

theorem padded (hsystem : system.WellFormed) (hphase : system.phase ≠ .proving) :
    system.padded.WellFormed := by
  have hgrown := hsystem.inhabited.grow [] hsystem.wires_paddingRows_lt
  have hgrownPhase : system.inhabited.phase ≠ .proving := by rwa [phase_inhabited]
  exact {
    wires_lt := hgrown.wires_lt
    bindings_sorted := hgrown.bindings_sorted
    bound_row := hgrown.bound_row
    reserved_gate := fun constant index hreserved => hgrown.reserved_gate constant index (by
      cases constant <;> exact hreserved)
    length_witness := fun _ => hgrown.length_witness hgrownPhase
    stored_reserved := fun _ constant index hreserved =>
      hgrown.stored_reserved hgrownPhase constant index (by cases constant <;> exact hreserved) }

/-- Padding demands nothing of a witness, except for the variable it may have to add. -/
theorem satisfied_padded (hsystem : system.WellFormed) (assigned : Nat → Element F) :
    system.padded.Satisfied assigned ↔
      system.Satisfied assigned ∧
        (system.numVars = 0 → assigned (system.reservedIndex .zero) = 0) := by
  rw [← hsystem.satisfied_inhabited]
  exact (hsystem.inhabited.satisfied_grow [] _ assigned).trans
    (and_iff_left (holds_paddingRows system.inhabited assigned))

theorem honest_padded (hsystem : system.WellFormed) (hphase : system.phase ≠ .proving) :
    system.padded.Honest ↔ system.Honest := by
  have hinhabited : system.inhabited.phase ≠ .proving := by rwa [phase_inhabited]
  rw [← hsystem.honest_inhabited hphase]
  exact (hsystem.inhabited.honest_grow hinhabited [] _).trans
    (and_iff_left (holds_paddingRows system.inhabited _))

theorem taken (hsystem : system.WellFormed) : system.taken.WellFormed where
  wires_lt := hsystem.wires_lt
  bindings_sorted := hsystem.bindings_sorted
  bound_row := hsystem.bound_row
  reserved_gate constant index hreserved :=
    hsystem.reserved_gate constant index (by cases constant <;> exact hreserved)
  length_witness hphase := absurd rfl hphase
  stored_reserved hphase := absurd rfl hphase

end WellFormed

end System

end Plonkish
