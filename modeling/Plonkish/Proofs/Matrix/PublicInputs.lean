import Plonkish.Proofs.Matrix.Arguments

/-!
# Public inputs that are compared

Verification compares a public input with its variable when it comes to the row of the
binding.  A matrix made by hand may name rows that it does not have; to those verification
never comes, and their inputs may be anything.  All others are compared, in whatever order
the bindings are and however often they name a row.
-/

namespace Plonkish

namespace ConstraintMatrix

variable {F : BaseField} {matrix : ConstraintMatrix F} {witness inputs others : List (Element F)}

/-- A row that verification comes to. -/
def HasRow (matrix : ConstraintMatrix F) (row : Int) : Prop :=
  0 ≤ row ∧ row < matrix.size

/-- Where a row has a public value, every binding of the row has matched. -/
theorem entryAt_of_publicValueAt {bindings : List (PublicBinding F)} {row : Nat}
    {value : Element F} (hvalue : publicValueAt witness bindings row = .ok value) :
    ∀ binding ∈ bindings, binding.row = (row : Int) →
      entryAt witness binding.boundVar = .ok binding.value := by
  change bindings.foldlM (publicStep witness row) 0 = .ok value at hvalue
  -- the value found so far plays no part
  generalize (0 : Element F) = initial at hvalue
  induction bindings generalizing initial with
  | nil => exact List.forall_mem_nil _
  | cons binding bindings ih =>
      rw [List.foldlM_cons] at hvalue
      obtain ⟨current, hstep, hrest⟩ := bind_eq_ok_iff.mp hvalue
      rw [List.forall_mem_cons]
      refine ⟨?_, ih current hrest⟩
      intro hrow
      rw [publicStep, if_pos hrow] at hstep
      obtain ⟨actual, hactual, hcompared⟩ := bind_eq_ok_iff.mp hstep
      by_cases hmatch : actual = binding.value
      · rw [hactual, hmatch]
      · rw [if_neg hmatch] at hcompared
        cases hcompared

/-- The public value of a row depends on the bindings of the row only. -/
theorem publicValueAt_congr {left right : List (PublicBinding F)} {row : Nat}
    (hagree : List.Forall₂
      (fun first second => first.row = second.row ∧ (first.row = (row : Int) → first = second))
      left right) :
    publicValueAt witness left row = publicValueAt witness right row := by
  change left.foldlM (publicStep witness row) 0 = right.foldlM (publicStep witness row) 0
  generalize (0 : Element F) = initial
  induction hagree generalizing initial with
  | nil => rfl
  | @cons first second left right hhead _ ih =>
      rw [List.foldlM_cons, List.foldlM_cons]
      by_cases hrow : first.row = (row : Int)
      · rw [hhead.2 hrow]
        exact bind_congr fun current => ih current
      · have hother : second.row ≠ (row : Int) := hhead.1 ▸ hrow
        rw [publicStep, if_neg hrow, publicStep, if_neg hother]
        exact ih initial

/-- Inputs that differ in rows that the matrix does not have make no difference to a row. -/
theorem checkRow_congr {selectors : List (List (Element F))} {row : Nat}
    (hlength : inputs.length = others.length)
    (hagree : ∀ position : Nat, matrix.bindingRows[position]? = some (row : Int) →
      inputs[position]? = others[position]?) :
    matrix.checkRow selectors witness (matrix.publicBindings inputs) row =
      matrix.checkRow selectors witness (matrix.publicBindings others) row := by
  have hpublic : publicValueAt witness (matrix.publicBindings inputs) row =
      publicValueAt witness (matrix.publicBindings others) row := by
    apply publicValueAt_congr
    rw [List.forall₂_iff_get]
    refine ⟨by simp only [publicBindings, List.length_zipWith, hlength], ?_⟩
    intro position hleft hright
    simp only [publicBindings, List.get_eq_getElem, List.getElem_zipWith, List.getElem_zip,
      true_and]
    intro hrow
    simp only [publicBindings, List.length_zipWith, List.length_zip, lt_min_iff] at hleft hright
    have hsame := hagree position (hrow ▸ List.getElem?_eq_getElem hleft.1.1)
    rw [List.getElem?_eq_getElem hleft.2, List.getElem?_eq_getElem hright.2,
      Option.some.injEq] at hsame
    rw [hsame]
  rw [checkRow, checkRow, hpublic]

theorem verify_eq_ok_iff_forall {given givenInputs : Value} :
    matrix.verify given givenInputs = .ok () ↔ ∃ witness inputs,
      matrix.Supplies given givenInputs witness inputs ∧
        ∃ selectors, matrix.selectorColumns = .ok selectors ∧ ∀ row : Nat, matrix.HasRow row →
          matrix.checkRow selectors witness (matrix.publicBindings inputs) row = .ok () := by
  have hrange : ∀ row : Nat, row ∈ List.range' 0 matrix.size.toNat ↔ matrix.HasRow row := by
    intro row
    rw [List.mem_range'_1, HasRow]
    omega
  simp only [verify_eq_bind, bind_eq_ok_iff, reading_eq_ok_iff, Prod.exists,
    checkRows_eq_forM, forM_eq_ok_iff, hrange]

/-- Of whatever verification accepts, every public input of a row that is there is the
value of its variable.  The inputs of other rows are not looked at: they may be exchanged
for any others. -/
theorem public_inputs_compared (matrix : ConstraintMatrix F) {given givenInputs : Value}
    (hverify : matrix.verify given givenInputs = .ok ()) :
    ∃ witness inputs, matrix.Supplies given givenInputs witness inputs ∧
      (∀ (position : Nat) row boundVar, matrix.bindingRows[position]? = some row →
        matrix.bindingVars[position]? = some boundVar → matrix.HasRow row →
        ∃ input, inputs[position]? = some input ∧ entryAt witness boundVar = .ok input) ∧
      ∀ givenOthers others, matrix.Supplies given givenOthers witness others →
        (∀ (position : Nat) row, matrix.bindingRows[position]? = some row → matrix.HasRow row →
          inputs[position]? = others[position]?) →
        matrix.verify given givenOthers = .ok () := by
  obtain ⟨witness, inputs, hsupplies, selectors, hselectors, hrows⟩ :=
    verify_eq_ok_iff_forall.mp hverify
  refine ⟨witness, inputs, hsupplies, ?_, ?_⟩
  · intro position row boundVar hrow hvar hhas
    obtain ⟨number, rfl⟩ := Int.eq_ofNat_of_zero_le hhas.1
    have hposition : position < inputs.length := by
      rw [hsupplies.length_rows]
      exact (List.getElem?_eq_some_iff.mp hrow).1
    have hbinding : ⟨number, boundVar, inputs[position]⟩ ∈ matrix.publicBindings inputs :=
      mem_publicBindings_iff.mpr ⟨position, hrow, hvar, List.getElem?_eq_getElem hposition⟩
    obtain ⟨value, hvalue, _⟩ := bind_eq_ok_iff.mp (hrows number hhas)
    exact ⟨inputs[position], List.getElem?_eq_getElem hposition,
      entryAt_of_publicValueAt hvalue _ hbinding rfl⟩
  · intro givenOthers others hothers hagree
    have hlength : inputs.length = others.length :=
      hsupplies.length_rows.trans hothers.length_rows.symm
    refine verify_eq_ok_iff_forall.mpr ⟨witness, others, hothers, selectors, hselectors, ?_⟩
    intro row hhas
    rw [← checkRow_congr hlength fun position hrow => hagree position row hrow hhas]
    exact hrows row hhas

/-- One row with a public value, and a second binding for a row that is not there. -/
def strayBinding : ConstraintMatrix .goldilocks where
  size := 1
  numVars := 1
  wiring := List.replicate Wires.count [0]
  selectors := List.replicate 12 [.int 0] ++ [[.int 1]]
  bindingRows := [0, 1]
  bindingVars := [0, 0]
  quotientDomain := .ok 8

/-- The input of the row is the value of the variable. -/
theorem public_inputs_compared_stray :
    strayBinding.verify (.list [.int 5]) (.list [.int 5, .int 7]) = .ok () ∧
      ∃ witness inputs, strayBinding.Supplies (.list [.int 5]) (.list [.int 5, .int 7])
        witness inputs ∧ ∃ input, inputs[0]? = some input ∧ entryAt witness 0 = .ok input := by
  have hverify : strayBinding.verify (.list [.int 5]) (.list [.int 5, .int 7]) = .ok () := by
    decide +kernel
  obtain ⟨witness, inputs, hsupplies, hcompared, _⟩ := public_inputs_compared strayBinding hverify
  exact ⟨hverify, witness, inputs, hsupplies, hcompared 0 0 0 rfl rfl ⟨by decide, by decide⟩⟩

/-- The input of the row that is not there differs from the same variable, and nothing is
refused. -/
theorem stray_input_accepted :
    strayBinding.Supplies (.list [.int 5]) (.list [.int 5, .int 7]) [5] [5, 7] ∧
      strayBinding.bindingVars[1]? = some 0 ∧ entryAt [(5 : Element .goldilocks)] 0 ≠ .ok 7 ∧
      strayBinding.verify (.list [.int 5]) (.list [.int 5, .int 7]) = .ok () := by
  refine ⟨?_, rfl, by decide, by decide +kernel⟩
  constructor <;> decide

end ConstraintMatrix

end Plonkish
