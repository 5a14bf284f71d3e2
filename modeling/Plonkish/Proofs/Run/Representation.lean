import Plonkish.Proofs.Run.Simulation
import Plonkish.Proofs.Run.WitnessIndependence

/-!
# The representation of systems that were built

However a system was built column by column, and whatever was refused on the way, its
columns, counters, stored values, bindings and reserved variables fit together.  They are
those of a system that operations reach.  Padding and taking out the witness are the only
operations that end a phase of it, so what they establish holds as long as their phase lasts.
-/

namespace Plonkish

variable {F : BaseField}

namespace System

/-- What holds of every system that is built by operations, whatever its phase. -/
structure Consistent (system : System F) : Prop extends WellFormed system where
  /-- Taking out the witness leaves no value behind. -/
  cleared : system.phase = .proving → system.witness = []
  /-- No variable is reserved for two constants. -/
  reserved_ne : ∀ index, system.reserved? .zero = some index → system.reserved? .one ≠ some index
  padded_size : system.phase = .padded → ∃ exponent, system.size = 2 ^ exponent
  padded_numVars : system.phase = .padded → system.numVars ≠ 0

/-- A variable cannot have two values. -/
theorem WellFormed.reserved_ne {system : System F} (hsystem : system.WellFormed)
    (hphase : system.phase ≠ .proving) (index : Nat)
    (hzero : system.reserved? .zero = some index) : system.reserved? .one ≠ some index := by
  intro hone
  have hvalues : Reserved.zero.value F = Reserved.one.value F :=
    (hsystem.stored_reserved hphase .zero index hzero).symm.trans
      (hsystem.stored_reserved hphase .one index hone)
  exact zero_ne_one hvalues

end System

namespace Change

variable {system : System F} {change : Change F}

theorem consistent_pad (hsystem : system.WellFormed) (hphase : system.phase ≠ .proving) :
    system.padded.Consistent where
  toWellFormed := hsystem.padded hphase
  cleared := nofun
  reserved_ne := (hsystem.padded hphase).reserved_ne nofun
  padded_size _ := by
    rw [System.size_padded]
    exact (isLeast_nextPowerOfTwo _).1.1
  padded_numVars _ := hsystem.numVars_inhabited_pos.ne'

theorem consistent_takeWitness (hsystem : system.Consistent) : system.taken.Consistent where
  toWellFormed := hsystem.taken
  cleared _ := rfl
  reserved_ne := hsystem.reserved_ne
  padded_size := nofun
  padded_numVars := nofun

theorem consistent_apply (hsystem : system.Consistent) (hlegal : change.Legal system) :
    (change.apply system).Consistent := by
  have happlied := wellFormed_apply hsystem.toWellFormed hlegal
  rcases phase_cases hlegal with rfl | rfl | hbuilding | hsame
  · exact consistent_pad hsystem.toWellFormed hlegal
  · exact consistent_takeWitness hsystem
  -- what is said of the later phases says nothing yet
  · exact {
      toWellFormed := happlied
      cleared := by rw [hbuilding]; nofun
      reserved_ne := happlied.reserved_ne (by rw [hbuilding]; nofun)
      padded_size := by rw [hbuilding]; nofun
      padded_numVars := by rw [hbuilding]; nofun }
  · rwa [hsame]

end Change

namespace System

theorem consistent_empty (F : BaseField) (quotient : QuotientDomain) :
    (empty F quotient).Consistent where
  toWellFormed := wellFormed_empty F quotient
  cleared := nofun
  reserved_ne := nofun
  padded_size := nofun
  padded_numVars := nofun

namespace Consistent

variable {system : System F}

theorem run (hsystem : system.Consistent) (operation : Operation) :
    (operation.run system).2.Consistent := by
  rcases Operation.run_cases hsystem.toWellFormed operation with
    ⟨refusal, hrun⟩ | ⟨plan, haccepted, hrun⟩
  · rw [hrun]
    exact hsystem
  · rw [hrun]
    exact Change.consistent_apply hsystem haccepted.legal

theorem after (hsystem : system.Consistent) (operations : List Operation) :
    (system.after operations).Consistent := by
  induction operations generalizing system with
  | nil => exact hsystem
  | cons operation operations ih =>
      rw [after_cons]
      exact ih (hsystem.run operation)

end Consistent

end System

/-! ### Columns -/

namespace Columns

/-- A row binds all five wires to one variable and has the selectors of a constant gate. -/
def FixedAt (columns : Columns F) (row index : Nat) (constant : Element F) : Prop :=
  (∀ column ∈ columns.wiring, column[row]? = some index) ∧
    columns.selectors.map (·[row]?) =
      [some 0, some 0, some 0, some 0, some 0, some 0, some constant, some 0, some 0, some 0,
        some 0, some 0, some 1]

/-- How the columns, the counters, the stored values, the bindings and the reserved variables
fit together. -/
structure Represented (columns : Columns F) : Prop where
  length_wiring : columns.wiring.length = Wires.count
  length_wire : ∀ column ∈ columns.wiring, column.length = columns.size
  length_selectors : columns.selectors.length = Selectors.count
  length_selector : ∀ column ∈ columns.selectors, column.length = columns.size
  wire_lt : ∀ column ∈ columns.wiring, ∀ index ∈ column, index < columns.numVars
  length_witness :
    columns.witness.length = if columns.phase = .proving then 0 else columns.numVars
  length_bindings : columns.bindingRows.length = columns.bindingVars.length
  bindings_sorted : columns.bindingRows.Pairwise (· < ·)
  bound_lt : ∀ row ∈ columns.bindingRows, row < columns.size
  bound_row : ∀ row index, (row, index) ∈ columns.bindingRows.zip columns.bindingVars →
    columns.FixedAt row index 0
  reserved_row : ∀ constant index, columns.reserved? constant = some index →
    ∃ row, columns.FixedAt row index (constant.value F)
  stored_reserved : columns.phase ≠ .proving → ∀ constant index,
    columns.reserved? constant = some index → columns.witness[index]? = some (constant.value F)
  reserved_ne : ∀ index, columns.zeroVar? = some index → columns.oneVar? ≠ some index
  padded_size : columns.phase = .padded → ∃ exponent, columns.size = 2 ^ exponent
  padded_numVars : columns.phase = .padded → 1 ≤ columns.numVars

end Columns

namespace System

variable {system : System F}

theorem fixedAt_of_row {row index : Nat} {constant : Element F}
    (hrow : system.rows[row]? = some (.constant index constant)) :
    system.columns.FixedAt row index constant := by
  constructor
  · simp [columns, wiring, hrow, Row.constant, Wires.replicate]
  · simp [columns, selectorColumns, hrow, Row.constant, Selectors.constant, Selectors.zero]

theorem Consistent.represented (hsystem : system.Consistent) : system.columns.Represented where
  length_wiring := rfl
  length_wire := by simp [columns, wiring, size]
  length_selectors := rfl
  length_selector := by simp [columns, selectorColumns, size]
  wire_lt := by simpa [columns, wiring, Wires.toList, forall_and] using hsystem.wires_lt
  length_witness := by
    change system.witness.length = if system.phase = .proving then 0 else system.numVars
    by_cases hphase : system.phase = .proving
    · rw [if_pos hphase, hsystem.cleared hphase, List.length_nil]
    · rw [if_neg hphase, hsystem.length_witness hphase]
  length_bindings := by simp [columns]
  bindings_sorted := List.pairwise_map.mpr hsystem.bindings_sorted
  bound_lt := List.forall_mem_map.mpr fun _ hbinding => hsystem.bound_lt hbinding
  bound_row row index hbound := by
    have hzip : system.columns.bindingRows.zip system.columns.bindingVars =
        system.bindings.map fun binding => (binding.row, binding.boundVar) := List.zip_map'
    rw [hzip] at hbound
    obtain ⟨binding, hbinding, hpair⟩ := List.mem_map.mp hbound
    cases hpair
    exact fixedAt_of_row (hsystem.bound_row binding hbinding)
  reserved_row constant index hreserved := by
    rw [reserved?_columns] at hreserved
    have hgate := hsystem.reserved_gate constant index hreserved
    obtain ⟨row, hrow⟩ := List.mem_iff_getElem?.mp (mem_rows_of_mem_gates hgate)
    exact ⟨row, fixedAt_of_row hrow⟩
  stored_reserved hphase constant index hreserved := by
    rw [reserved?_columns] at hreserved
    have hlt : index < system.witness.length := by
      rw [hsystem.length_witness hphase]
      exact hsystem.reserved_lt hreserved
    rw [← hsystem.stored_reserved hphase constant index hreserved]
    exact getElem?_eq_some_assignment hlt
  reserved_ne := hsystem.reserved_ne
  padded_size := hsystem.padded_size
  padded_numVars hphase := Nat.one_le_iff_ne_zero.mpr (hsystem.padded_numVars hphase)

end System

/-- In every state that operations made of calls reach, accepted or refused, the parts fit
together. -/
theorem Columns.represented_after (quotient : QuotientDomain) (operations : List Operation) :
    ((empty F quotient).after operations).Represented := by
  rw [after_empty]
  exact ((System.consistent_empty F quotient).after operations).represented

end Plonkish
