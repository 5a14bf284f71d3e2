import Plonkish.Proofs.Operation.Determined
import Plonkish.Proofs.Run.Calls
import Plonkish.Proofs.System.Acceptance

/-!
# Witnesses are determined by their free inputs

A circuit leaves no variable open: two accepted witnesses that agree on the variables
that were added for given values agree on all variables, and so do the public inputs.
The inverse in the flags of two variables is the one exception, and only where the
two are equal.
-/

namespace Plonkish

variable {F : BaseField}

namespace Operation

/-- The arguments that name the variables an operation works on. -/
def operands : Operation → List Value
  | newVariable _ | addVariables _ | witnessValue _ | zeroVariable | oneVariable | pad
  | takeWitness => []
  | insertGate wires _ => wires.entries.toOption.getD []
  | insertLinearGate inputs output _ _ _ _ => output :: inputs.entries.toOption.getD []
  | insertAddGate left right output | insertSubGate left right output
  | insertMulGate left right output => [left, right, output]
  | insertBooleanGate index | insertConstantGate index _ | preparePublicInput index
  | rangeCheck index _ => [index]
  | linearCombine inputs _ _ _ _ => inputs.entries.toOption.getD []
  | add left right | sub left right | mul left right | equal left right
  | isEqual left right | isNotEqual left right | isEqualOrNotEqual left right => [left, right]
  | select var0 var1 bit => [bit, var0, var1]

/-- The two variables that an operation adds equality flags for. -/
def compared? : Operation → Option (Value × Value)
  | isEqual left right | isNotEqual left right | isEqualOrNotEqual left right =>
    some (left, right)
  | _ => none

end Operation

namespace Call

/-- The variables that the call added for given values. -/
def inputs (call : Call F) : List Nat :=
  match call.operation, call.outcome with
  | .newVariable _, .ok (.index index) => [index]
  | .addVariables _, .ok (.indices indices) => indices
  | _, _ => []

/-- The inverse that the call added with equality flags, right after the difference. -/
def inverse? (call : Call F) : Option Nat :=
  match call.operation.compared?, call.outcome with
  | some _, .ok _ => some (call.before.numVars + 1)
  | _, _ => none

/-- The call added the equality flags of two variables, with an inverse. -/
structure Inverts (call : Call F) (left right inverse : Nat) : Prop where
  inverse_eq : call.inverse? = some inverse
  /-- The operation compares the two variables. -/
  compared : ∃ leftIndex rightIndex, call.operation.compared? = some (leftIndex, rightIndex) ∧
    call.before.Names leftIndex left ∧ call.before.Names rightIndex right

end Call

namespace Accepted

variable {system : System F} {operation : Operation} {plan : Plan F}

theorem exists_named {given : List Value} {found : List Nat}
    (hfound : List.Forall₂ system.Names given found) :
    ∀ index ∈ found, ∃ operand ∈ given, operand.index? = some (index : Int) := by
  induction hfound with
  | nil => exact List.forall_mem_nil _
  | cons hfirst _ ih =>
      rw [List.forall_mem_cons]
      constructor
      · exact ⟨_, List.mem_cons_self, hfirst.1⟩
      · intro index hindex
        obtain ⟨operand, hoperand, hnames⟩ := ih index hindex
        exact ⟨operand, List.mem_cons_of_mem _ hoperand, hnames⟩

/-- The variables that a change reads are named by the operation. -/
theorem operands_named (haccepted : Accepted system operation plan) :
    ∀ index ∈ plan.change.operands,
      ∃ operand ∈ operation.operands, operand.index? = some (index : Int) := by
  cases haccepted with
  | preparePublicInput hphase hindex | rangeCheck hphase hindex =>
      exact exists_named (.cons hindex .nil)
  | linearCombine hphase hinputs hfound =>
      rw [Operation.operands, hinputs]
      exact exists_named hfound
  | add hphase hfound | sub hphase hfound | mul hphase hfound | equal hphase hfound
  | select hphase hfound | isEqual hphase hfound | isNotEqual hphase hfound
  | isEqualOrNotEqual hphase hfound => exact exists_named hfound
  | _ => exact List.forall_mem_nil _

theorem inputs_eq (haccepted : Accepted system operation plan) {values : List (Element F)}
    (hchange : plan.change = .inputs values) :
    (⟨operation, system, .ok (plan.report system)⟩ : Call F).inputs =
      List.range' system.numVars values.length := by
  cases haccepted <;> cases hchange <;> rfl

theorem inverts (haccepted : Accepted system operation plan) {left right : Nat}
    (hchange : plan.change = .flags left right) :
    (⟨operation, system, .ok (plan.report system)⟩ : Call F).Inverts left right
      (system.numVars + 1) := by
  cases haccepted with
  | isEqual hphase hfound | isNotEqual hphase hfound | isEqualOrNotEqual hphase hfound =>
      cases hchange
      simp only [List.forall₂_cons] at hfound
      exact ⟨rfl, _, _, rfl, hfound.1, hfound.2.1⟩
  | _ => cases hchange

theorem count_eq (haccepted : Accepted system operation plan) {checked count : Nat}
    (hchange : plan.change = .digits checked count) :
    ∃ index given number, operation = .rangeCheck index given ∧
      given.toNumber = .ok number ∧ count = number.toNat := by
  cases haccepted <;> cases hchange
  exact ⟨_, _, _, rfl, ‹_›, rfl⟩

end Accepted

namespace System

/-- The two assignments agree on every variable of the system that is not open, and
on every variable that takes a public input. -/
structure Agree (system : System F) (isOpen : Nat → Prop) (left right : Nat → Element F) :
    Prop where
  unless_open : ∀ index < system.numVars, left index = right index ∨ isOpen index
  bound : ∀ binding ∈ system.bindings, left binding.boundVar = right binding.boundVar

end System

/-- What a run needs for its witnesses to be determined up to the open variables. -/
structure Call.Pinned (call : Call F) (isOpen : Nat → Prop) (left right : Nat → Element F) :
    Prop where
  /-- Variables that are added for given values agree. -/
  inputs : ∀ index ∈ call.inputs, left index = right index
  /-- No operation works on an open variable. -/
  operands : call.Succeeded → ∀ operand ∈ call.operation.operands, ∀ index : Nat,
    operand.index? = some (index : Int) → ¬ isOpen index
  /-- The inverse of a difference that is zero is open. -/
  inverts : ∀ first second inverse, call.Inverts first second inverse →
    left first = left second → isOpen inverse
  /-- Range checks stay below the order of the field. -/
  range : call.Succeeded → ∀ index count number, call.operation = .rangeCheck index count →
    count.toNumber = .ok number → 2 ^ number.toNat ≤ F.modulus

namespace System

variable {system : System F} {isOpen : Nat → Prop} {left right : Nat → Element F}

/-- One accepted operation keeps the assignments in agreement. -/
theorem Agree.apply (hagree : system.Agree isOpen left right) {operation : Operation}
    {plan : Plan F} (haccepted : Accepted system operation plan)
    (hpinned : Call.Pinned ⟨operation, system, .ok (plan.report system)⟩ isOpen left right)
    (hleft : plan.change.Forces system left) (hright : plan.change.Forces system right) :
    (plan.change.apply system).Agree isOpen left right := by
  have hoperands : ∀ index ∈ plan.change.operands, left index = right index := by
    intro index hindex
    obtain ⟨operand, hoperand, hnames⟩ := haccepted.operands_named index hindex
    have hlt := Change.operands_lt haccepted.legal index hindex
    exact (hagree.unless_open index hlt).resolve_right
      (hpinned.operands rfl operand hoperand index hnames)
  have hinputs : ∀ values, plan.change = .inputs values →
      ∀ index ∈ List.range' system.numVars values.length, left index = right index := by
    intro values hchange index hindex
    exact hpinned.inputs index (haccepted.inputs_eq hchange ▸ hindex)
  have hdigits : ∀ checked count, plan.change = .digits checked count →
      2 ^ count ≤ F.modulus := by
    intro checked count hchange
    obtain ⟨index, given, number, hoperation, hnumber, rfl⟩ := haccepted.count_eq hchange
    exact hpinned.range rfl index given number hoperation hnumber
  constructor
  · intro index hindex
    by_cases hold : index < system.numVars
    · exact hagree.unless_open index hold
    · rcases Change.forces_agree hleft hright hoperands hinputs hdigits (Nat.not_lt.mp hold)
        hindex with hsame | ⟨first, second, hchange, rfl, hequal⟩
      · exact Or.inl hsame
      · exact Or.inr (hpinned.inverts _ _ _ (haccepted.inverts hchange) hequal)
  · intro binding hbinding
    rcases Change.mem_bindings_apply hbinding with hold | hnew
    · exact hagree.bound binding hold
    · exact hoperands _ hnew

/-- So does a whole run. -/
theorem Agree.after (hsystem : system.WellFormed) (hagree : system.Agree isOpen left right)
    {operations : List Operation}
    (hpinned : ∀ call ∈ Operation.calls operations system, call.Pinned isOpen left right)
    (hleft : (system.after operations).Satisfied left)
    (hright : (system.after operations).Satisfied right) :
    (system.after operations).Agree isOpen left right := by
  induction operations generalizing system with
  | nil => exact hagree
  | cons operation operations ih =>
      rw [Operation.calls, List.forall_mem_cons] at hpinned
      obtain ⟨hfirst, hrest⟩ := hpinned
      have hafter := hsystem.run operation
      rw [after_cons] at hleft hright ⊢
      have hleftNext := hafter.satisfied_of_after hleft
      have hrightNext := hafter.satisfied_of_after hright
      refine ih hafter ?_ hrest hleft hright
      rcases Operation.run_cases hsystem operation with ⟨refusal, hrun⟩ | ⟨plan, haccepted, hrun⟩
      · rw [hrun]
        exact hagree
      · rw [hrun] at hfirst hleftNext hrightNext ⊢
        exact hagree.apply haccepted hfirst
          ((Change.satisfied_apply hsystem haccepted.legal left).mp hleftNext).2
          ((Change.satisfied_apply hsystem haccepted.legal right).mp hrightNext).2

end System

namespace Operation

/-- Two accepted witnesses of a run that agree on its free inputs agree on all
variables, up to inverses of zero, and have the same public inputs. -/
theorem witness_determined (quotient : QuotientDomain) {operations : List Operation}
    (hrange : ∀ call ∈ calls operations (System.empty F quotient), call.Succeeded →
      ∀ index count number, call.operation = .rangeCheck index count →
        count.toNumber = .ok number → 2 ^ number.toNat ≤ F.modulus)
    (hoperands : ∀ call ∈ calls operations (System.empty F quotient), call.Succeeded →
      ∀ operand ∈ call.operation.operands,
        ∀ other ∈ calls operations (System.empty F quotient), ∀ inverse ∈ other.inverse?,
          operand.index? ≠ some (inverse : Int))
    {given given' givenInputs givenInputs' : Value}
    {witness witness' publicInputs publicInputs' : List (Element F)}
    (hwitness : given.elements F = .ok witness) (hwitness' : given'.elements F = .ok witness')
    (hinputs : givenInputs.elements F = .ok publicInputs)
    (hinputs' : givenInputs'.elements F = .ok publicInputs')
    (hverify : ((System.empty F quotient).after operations).matrix.verify given givenInputs =
      .ok ())
    (hverify' : ((System.empty F quotient).after operations).matrix.verify given' givenInputs' =
      .ok ())
    (hfree : ∀ call ∈ calls operations (System.empty F quotient), ∀ index ∈ call.inputs,
      assignment witness index = assignment witness' index) :
    (∀ index < ((System.empty F quotient).after operations).numVars,
      assignment witness index = assignment witness' index ∨
        ∃ call ∈ calls operations (System.empty F quotient), ∃ first second,
          call.Inverts first second index ∧
            assignment witness first = assignment witness second) ∧
      publicInputs = publicInputs' := by
  have hempty := System.wellFormed_empty F quotient
  have hfinal := hempty.after operations
  have haccepts := (System.verify_elements_iff hfinal hwitness hinputs).mp hverify
  have haccepts' := (System.verify_elements_iff hfinal hwitness' hinputs').mp hverify'
  have hagree : (System.empty F quotient).Agree
      (fun index => ∃ call ∈ calls operations (System.empty F quotient), ∃ first second,
        call.Inverts first second index ∧
          assignment witness first = assignment witness second)
      (assignment witness) (assignment witness') := ⟨nofun, nofun⟩
  have hpinned : ∀ call ∈ calls operations (System.empty F quotient), call.Pinned
      (fun index => ∃ call ∈ calls operations (System.empty F quotient), ∃ first second,
        call.Inverts first second index ∧
          assignment witness first = assignment witness second)
      (assignment witness) (assignment witness') := by
    intro call hcall
    exact {
      inputs := hfree call hcall
      operands := by
        rintro hsucceeded operand hoperand index hnames ⟨other, hother, _, _, hinverts, _⟩
        exact hoperands call hcall hsucceeded operand hoperand other hother index
          hinverts.inverse_eq hnames
      inverts := fun first second inverse hinverts hequal =>
        ⟨call, hcall, first, second, hinverts, hequal⟩
      range := hrange call hcall }
  have hall := hagree.after hempty hpinned haccepts.satisfied haccepts'.satisfied
  refine ⟨hall.unless_open, ?_⟩
  rw [haccepts.publicInputs_eq, haccepts'.publicInputs_eq]
  exact List.map_congr_left hall.bound

/-- A run that compares two variables with the value 3 and makes the flag public. -/
def comparison : List Operation :=
  [newVariable (.int 3), newVariable (.int 3), isEqual (.int 0) (.int 1),
    preparePublicInput (.int 6)]

/-- A witness of the comparison that has any inverse for the difference zero. -/
def comparisonWitness (inverse : Nat) : List (Element .goldilocks) :=
  [3, 3, 0, inverse, 0, 1, 1, 0].map (Element.ofNat .goldilocks)

/-- Two witnesses with different inverses are accepted, and nothing else is open. -/
theorem witness_determined_comparison :
    (∀ inverse ∈ [0, 7], ((System.empty .goldilocks {}).after comparison).matrix.verify
      (.ofElements (comparisonWitness inverse)) (.list [.int 1]) = .ok ()) ∧
    ∀ index < ((System.empty .goldilocks {}).after comparison).numVars,
      assignment (comparisonWitness 0) index = assignment (comparisonWitness 7) index ∨
        ∃ call ∈ calls comparison (System.empty .goldilocks {}), ∃ first second,
          call.Inverts first second index ∧
            assignment (comparisonWitness 0) first = assignment (comparisonWitness 0) second := by
  have hverify : ∀ inverse ∈ [0, 7],
      ((System.empty .goldilocks {}).after comparison).matrix.verify
        (.ofElements (comparisonWitness inverse)) (.list [.int 1]) = .ok () := by
    decide +kernel
  refine ⟨hverify, (witness_determined {} ?_ ?_ (Value.elements_ofElements _)
    (Value.elements_ofElements _) rfl rfl (hverify 0 (by decide)) (hverify 7 (by decide)) ?_).1⟩
  · simp [calls, comparison]
  · decide +kernel
  · decide +kernel

end Operation

end Plonkish
