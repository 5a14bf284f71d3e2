import Plonkish.Operation
import Plonkish.Proofs.Gadget.Equality
import Plonkish.Proofs.Gadget.RangeCheck
import Plonkish.Proofs.System.Completion

/-!
# Changes of a system

What an operation does to a system once its arguments are accepted is one of a few
changes.  For each of them this module says which demands it makes on a witness and
which stored values meet them, so that runs can be followed change by change.
-/

namespace Plonkish

variable {F : BaseField}

/-- A change of a system. -/
inductive Change (F : BaseField) where
  | keep
  | inputs (values : List (Element F))
  /-- A variable is reserved for a constant, if there is none. -/
  | reserve (constant : Reserved)
  | row (inserted : Row F)
  /-- A row is added that takes a public input for a variable. -/
  | publicInput (index : Nat)
  | pad
  | takeWitness
  | formula (defining : Formula F)
  | equation (left right : Nat)
  | flags (left right : Nat)
  /-- A variable is forced to have the given number of binary digits. -/
  | digits (checked count : Nat)

namespace Change

def apply (system : System F) : Change F → System F
  | keep => system
  | inputs values => system.grow values []
  | reserve constant => system.reserve constant
  | row inserted => system.grow [] [inserted]
  | publicInput index => system.bindPublic index
  | pad => system.padded
  | takeWitness => system.taken
  | formula defining => system.define defining
  | equation left right => system.equate left right
  | flags left right => system.addFlags left right
  | digits checked count => system.addDigits checked count

/-- The change is made in its phase and names variables of the system only. -/
def Legal (system : System F) : Change F → Prop
  | keep => True
  | inputs _ => system.phase = .building
  | reserve constant => system.reserved? constant = none → system.phase = .building
  | row inserted =>
    system.phase = .building ∧ ∀ index ∈ inserted.wires.toList, index < system.numVars
  | publicInput index => system.phase = .building ∧ index < system.numVars
  | pad | takeWitness => system.phase ≠ .proving
  | formula defining =>
    system.phase = .building ∧ ∀ index ∈ defining.operands, index < system.numVars
  | equation left right | flags left right =>
    system.phase = .building ∧ left < system.numVars ∧ right < system.numVars
  | digits checked count => system.phase = .building ∧ checked < system.numVars ∧ 2 ≤ count

/-- What the change adds to the demands on a witness. -/
def Forces (system : System F) (assigned : Nat → Element F) : Change F → Prop
  | keep | inputs _ | publicInput _ | takeWitness => True
  | reserve constant => assigned (system.reservedIndex constant) = constant.value F
  | row inserted => inserted.Holds assigned
  | pad => system.numVars = 0 → assigned (system.reservedIndex .zero) = 0
  | formula defining => assigned system.numVars = defining.value assigned
  | equation left right =>
    assigned (system.reservedIndex .zero) = 0 ∧ assigned left = assigned right
  | flags left right => system.FlagsHold left right assigned
  | digits checked count =>
    ∃ number : Nat, number < 2 ^ count ∧ (number : Element F) = assigned checked ∧
      (List.range' system.numVars (count + (count - 2) / 3)).map assigned =
        digitValues F number count

/-- What the stored values have to meet so that they meet the new demands. -/
def Demands (system : System F) : Change F → Prop
  | row inserted => inserted.Holds system.stored
  | equation left right => system.stored left = system.stored right
  | digits checked count => (system.stored checked).val < 2 ^ count
  | _ => True

end Change

namespace Change

variable {system : System F} {change : Change F}

theorem wellFormed_apply (hsystem : system.WellFormed) (hlegal : change.Legal system) :
    (change.apply system).WellFormed := by
  cases change with
  | keep => exact hsystem
  | inputs values => exact hsystem.grow_values values
  | reserve constant => exact hsystem.reserve constant
  | row inserted => exact hsystem.grow_row hlegal.2
  | publicInput index => exact hsystem.bindPublic hlegal.2
  | pad => exact hsystem.padded hlegal
  | takeWitness => exact hsystem.taken
  | formula defining => exact hsystem.define hlegal.2
  | equation left right => exact hsystem.equate hlegal.2.1 hlegal.2.2
  | flags left right => exact hsystem.addFlags hlegal.2.1 hlegal.2.2
  | digits checked count => exact hsystem.addDigits hlegal.2.1 hlegal.2.2

/-- After the change a witness has to meet the new demands besides the earlier ones. -/
theorem satisfied_apply (hsystem : system.WellFormed) (hlegal : change.Legal system)
    (assigned : Nat → Element F) :
    (change.apply system).Satisfied assigned ↔
      system.Satisfied assigned ∧ change.Forces system assigned := by
  cases change with
  | keep => exact (and_iff_left trivial).symm
  | inputs values =>
      exact (hsystem.satisfied_grow values [] assigned).trans
        (and_congr_right fun _ => iff_true_intro (List.forall_mem_nil _))
  | reserve constant => exact hsystem.satisfied_reserve constant assigned
  | row inserted =>
      rw [apply, hsystem.satisfied_grow, List.forall_mem_singleton, Forces]
  | publicInput index =>
      exact (System.satisfied_bindPublic system index assigned).trans (and_iff_left trivial).symm
  | pad => exact hsystem.satisfied_padded assigned
  | takeWitness => exact (and_iff_left trivial).symm
  | formula defining => exact hsystem.satisfied_define assigned
  | equation left right => exact hsystem.satisfied_equate assigned
  | flags left right => exact hsystem.satisfied_addFlags hlegal.2.1 hlegal.2.2 assigned
  | digits checked count => exact hsystem.satisfied_addDigits hlegal.2.2 assigned

/-- The stored values meet all demands after the change exactly if they did before
and the values that the change reads are as it demands. -/
theorem honest_apply (hsystem : system.WellFormed) (hphase : system.phase ≠ .proving)
    (hlegal : change.Legal system) (hchange : change ≠ takeWitness) :
    (change.apply system).Honest ↔ system.Honest ∧ change.Demands system := by
  cases change with
  | keep => exact (and_iff_left trivial).symm
  | inputs values =>
      exact (hsystem.honest_grow_values hphase values).trans (and_iff_left trivial).symm
  | reserve constant =>
      exact (hsystem.honest_reserve hphase constant).trans (and_iff_left trivial).symm
  | row inserted => exact hsystem.honest_grow_row hphase inserted
  | publicInput index =>
      exact (System.WellFormed.honest_bindPublic index).trans (and_iff_left trivial).symm
  | pad => exact (hsystem.honest_padded hphase).trans (and_iff_left trivial).symm
  | takeWitness => exact absurd rfl hchange
  | formula defining =>
      exact (hsystem.honest_define hphase hlegal.2).trans (and_iff_left trivial).symm
  | equation left right => exact hsystem.honest_equate hphase hlegal.2.1 hlegal.2.2
  | flags left right =>
      exact (hsystem.honest_addFlags hphase hlegal.2.1 hlegal.2.2).trans
        (and_iff_left trivial).symm
  | digits checked count => exact hsystem.honest_addDigits hphase hlegal.2.1 hlegal.2.2

/-- No change takes variables away. -/
theorem numVars_le_apply (system : System F) (change : Change F) :
    system.numVars ≤ (change.apply system).numVars := by
  cases change with
  | keep | row | publicInput | takeWitness => exact Nat.le_refl _
  | inputs | formula | digits => exact Nat.le_add_right _ _
  | reserve constant => exact system.numVars_le_reserve constant
  | pad => exact system.numVars_le_inhabited
  | equation left right => exact system.numVars_le_reserve .zero
  | flags left right =>
      have hflag := system.equalFlag_lt_numVars_addFlags left right
      have hle := system.numVars_add_three_le_equalFlag left right
      rw [apply]
      omega

theorem phase_apply (hpad : change ≠ pad) (htake : change ≠ takeWitness) :
    (change.apply system).phase = system.phase := by
  cases change with
  | pad => exact absurd rfl hpad
  | takeWitness => exact absurd rfl htake
  | keep | inputs | row | publicInput | formula | digits => rfl
  | reserve | equation | flags => simp [apply]

theorem phase_apply_ne_proving (hphase : system.phase ≠ .proving)
    (hchange : change ≠ takeWitness) : (change.apply system).phase ≠ .proving := by
  by_cases hpad : change = pad
  · subst hpad
    exact nofun
  · rwa [phase_apply hpad hchange]

/-- After the building phase only padding and taking out the witness change anything. -/
theorem apply_eq_self (hlegal : change.Legal system) (hphase : system.phase ≠ .building)
    (hpad : change ≠ pad) (htake : change ≠ takeWitness) : change.apply system = system := by
  cases change with
  | keep => rfl
  | pad => exact absurd rfl hpad
  | takeWitness => exact absurd rfl htake
  | inputs => exact absurd hlegal hphase
  | reserve constant =>
      cases hreserved : system.reserved? constant with
      | some index => exact System.reserve_of_some hreserved
      | none => exact absurd (hlegal hreserved) hphase
  | row | publicInput | formula | equation | flags | digits => exact absurd hlegal.1 hphase

/-- Besides padding and taking out the witness, a change is made while building or not at all. -/
theorem phase_cases (hlegal : change.Legal system) :
    change = pad ∨ change = takeWitness ∨ (change.apply system).phase = .building ∨
      change.apply system = system := by
  by_cases hpad : change = pad
  · exact .inl hpad
  by_cases htake : change = takeWitness
  · exact .inr (.inl htake)
  by_cases hphase : system.phase = .building
  · exact .inr (.inr (.inl ((phase_apply hpad htake).trans hphase)))
  · exact .inr (.inr (.inr (apply_eq_self hlegal hphase hpad htake)))

/-- No change puts values back once they were taken out. -/
theorem cleared_apply (hlegal : change.Legal system)
    (hcleared : system.phase = .proving → system.witness = []) :
    (change.apply system).phase = .proving → (change.apply system).witness = [] := by
  rcases phase_cases hlegal with rfl | rfl | hbuilding | hsame
  · exact nofun
  · exact fun _ => rfl
  · rw [hbuilding]
    exact nofun
  · rwa [hsame]

end Change

end Plonkish
