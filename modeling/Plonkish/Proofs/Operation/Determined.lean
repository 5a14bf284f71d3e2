import Plonkish.Proofs.Operation.Accepted

/-!
# New variables are determined

Two witnesses that meet the demands of a change and agree on the variables it reads
agree on the variables it adds.  There are two exceptions: variables that are added
for given values, which no row mentions, and the inverse of a difference that is zero.
A range check only determines its digits if no two numbers that have so many digits
stand for one element.
-/

namespace Plonkish

variable {F : BaseField}

namespace Change

variable {system : System F} {assigned assigned' : Nat → Element F}

/-- The variables whose values the change reads. -/
def operands : Change F → List Nat
  | formula defining => defining.operands
  | equation left right | flags left right => [left, right]
  | digits checked _ => [checked]
  | publicInput index => [index]
  | _ => []

theorem operands_lt {change : Change F} (hlegal : change.Legal system) :
    ∀ index ∈ change.operands, index < system.numVars := by
  cases change with
  | keep | inputs | reserve | row | pad | takeWitness => exact List.forall_mem_nil _
  | publicInput index => exact List.forall_mem_singleton.mpr hlegal.2
  | formula defining => exact hlegal.2
  | equation left right | flags left right =>
      exact List.forall_mem_cons.mpr ⟨hlegal.2.1, List.forall_mem_singleton.mpr hlegal.2.2⟩
  | digits checked count => exact List.forall_mem_singleton.mpr hlegal.2.1

/-- Below the order of the field an element is the class of one number only. -/
theorem digits_agree {checked count : Nat} (hcount : 2 ^ count ≤ F.modulus)
    (hdigits : (digits checked count : Change F).Forces system assigned)
    (hdigits' : (digits checked count : Change F).Forces system assigned')
    (hchecked : assigned checked = assigned' checked) {index : Nat}
    (hnew : system.numVars ≤ index)
    (hindex : index < system.numVars + (count + (count - 2) / 3)) :
    assigned index = assigned' index := by
  obtain ⟨number, hlt, hnumber, hvalues⟩ := hdigits
  obtain ⟨number', hlt', hnumber', hvalues'⟩ := hdigits'
  have hsame : number = number' := by
    have hcast : (number : Element F) = number' := by
      rw [hnumber, hnumber', hchecked]
    rw [Element.natCast_eq_natCast_iff, Nat.mod_eq_of_lt (hlt.trans_le hcount),
      Nat.mod_eq_of_lt (hlt'.trans_le hcount)] at hcast
    exact hcast
  rw [← hsame, ← hvalues, List.map_inj_left] at hvalues'
  exact (hvalues' index (List.mem_range'_1.mpr ⟨hnew, hindex⟩)).symm

/-- What a change adds is determined by what it reads, up to given values and
inverses of zero. -/
theorem forces_agree {change : Change F} (hforces : change.Forces system assigned)
    (hforces' : change.Forces system assigned')
    (hoperands : ∀ index ∈ change.operands, assigned index = assigned' index)
    (hinputs : ∀ values, change = inputs values →
      ∀ index ∈ List.range' system.numVars values.length, assigned index = assigned' index)
    (hdigits : ∀ checked count, change = digits checked count → 2 ^ count ≤ F.modulus)
    {index : Nat} (hnew : system.numVars ≤ index)
    (hindex : index < (change.apply system).numVars) :
    assigned index = assigned' index ∨
      ∃ left right, change = flags left right ∧ index = system.numVars + 1 ∧
        assigned left = assigned right := by
  cases change with
  | keep | row | publicInput | takeWitness => exact absurd hindex (Nat.not_lt.mpr hnew)
  | inputs values =>
      exact Or.inl (hinputs values rfl index (List.mem_range'_1.mpr ⟨hnew, hindex⟩))
  | reserve constant =>
      left
      rw [System.eq_reservedIndex hnew hindex, hforces, hforces']
  | pad =>
      left
      change index < system.inhabited.numVars at hindex
      by_cases hnumVars : system.numVars = 0
      · rw [System.inhabited_of_eq_zero hnumVars] at hindex
        rw [System.eq_reservedIndex hnew hindex, hforces hnumVars, hforces' hnumVars]
      · rw [System.inhabited_of_ne_zero hnumVars] at hindex
        exact absurd hindex (Nat.not_lt.mpr hnew)
  | formula defining =>
      left
      have heq : index = system.numVars := Nat.le_antisymm (Nat.lt_succ_iff.mp hindex) hnew
      rw [heq, hforces, hforces', Formula.value_congr hoperands]
  | equation left right =>
      left
      rw [System.eq_reservedIndex hnew hindex, hforces.1, hforces'.1]
  | flags left right =>
      rcases System.FlagsHold.agree hforces hforces' (hoperands left (by simp [operands]))
        (hoperands right (by simp [operands])) hnew hindex with hagree | ⟨hinverse, hequal⟩
      · exact Or.inl hagree
      · exact Or.inr ⟨left, right, rfl, hinverse, hequal⟩
  | digits checked count =>
      rw [apply, System.addDigits, System.numVars_grow, length_digitValues] at hindex
      exact Or.inl (digits_agree (hdigits checked count rfl) hforces hforces'
        (hoperands checked (by simp [operands])) hnew hindex)

/-- Only the change that binds a public input adds a binding. -/
theorem mem_bindings_apply {change : Change F} {binding : Binding}
    (hbinding : binding ∈ (change.apply system).bindings) :
    binding ∈ system.bindings ∨ binding.boundVar ∈ change.operands := by
  cases change with
  | keep | inputs | row | takeWitness | formula | digits => exact Or.inl hbinding
  | reserve | equation | flags =>
      left
      simpa [apply] using hbinding
  | publicInput index =>
      rcases List.mem_append.mp hbinding with hold | hnew
      · exact Or.inl hold
      · rw [List.mem_singleton.mp hnew]
        exact Or.inr List.mem_cons_self
  | pad =>
      change binding ∈ system.inhabited.bindings at hbinding
      rw [System.bindings_inhabited] at hbinding
      exact Or.inl hbinding

end Change

end Plonkish
