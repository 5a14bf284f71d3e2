import Mathlib.Order.Bounds.Basic
import Plonkish.Matrix.Verify
import Plonkish.Proofs.Matrix.Assignment
import Plonkish.Proofs.Refusal

/-!
# Verification as a search for the first row that fails

A row fails at the first of its bindings whose input is not the value of the bound
variable, and otherwise where its gate equation does not vanish.  Verification of a
matrix whose entries all point to variables and rows that are there never ends for
another reason than the least row that fails.
-/

namespace Plonkish

variable {F : BaseField}

theorem entryAt_ofNat {α : Type} {entries : List α} {position : Nat} {entry : α}
    (hentry : entries[position]? = some entry) :
    entryAt entries (position : Int) = .ok entry := by
  obtain ⟨hposition, rfl⟩ := List.getElem?_eq_some_iff.mp hentry
  simp [entryAt, position?, hposition]

theorem entryAt_assignment {values : List (Element F)} {index : Nat}
    (hindex : index < values.length) :
    entryAt values (index : Int) = .ok (assignment values index) := by
  rw [assignment, List.getD_eq_getElem values 0 hindex]
  exact entryAt_ofNat (List.getElem?_eq_getElem hindex)

namespace ConstraintMatrix

/-- The public value of a row: the input of the last binding that names the row. -/
def lastPublic (bindings : List (PublicBinding F)) (row : Nat) (initial : Element F) : Element F :=
  bindings.foldl
    (fun current binding => if binding.row = (row : Int) then binding.value else current) initial

theorem lastPublic_eq {bindings : List (PublicBinding F)} {row : Nat} {value : Element F}
    (hvalue : ∀ binding ∈ bindings, binding.row = (row : Int) → binding.value = value)
    {initial : Element F}
    (hsome : initial = value ∨ ∃ binding ∈ bindings, binding.row = (row : Int)) :
    lastPublic bindings row initial = value := by
  induction bindings generalizing initial with
  | nil =>
      rcases hsome with hinitial | ⟨_, hnil, _⟩
      · exact hinitial
      · cases hnil
  | cons binding bindings ih =>
      rw [lastPublic, List.foldl_cons]
      apply ih fun other hother => hvalue other (List.mem_cons_of_mem binding hother)
      by_cases hrow : binding.row = (row : Int)
      · left
        rw [if_pos hrow, hvalue binding List.mem_cons_self hrow]
      · rw [if_neg hrow]
        rcases hsome with hinitial | ⟨other, hother, hotherRow⟩
        · exact Or.inl hinitial
        · rcases List.mem_cons.mp hother with rfl | htail
          · exact absurd hotherRow hrow
          · exact Or.inr ⟨other, htail, hotherRow⟩

/-- One step of the search for the public value of a row. -/
def publicStep (witness : List (Element F)) (row : Nat) (current : Element F)
    (binding : PublicBinding F) : Except CircuitError (Element F) := do
  if binding.row = (row : Int) then
    let actual ← entryAt witness binding.boundVar
    unless actual = binding.value do
      throw (.rejected
        (.publicInputMismatch row binding.boundVar binding.value.val actual.val))
    return binding.value
  else return current

/-- The numbers of values and of public inputs are all that is asked of them at first. -/
theorem givenValues_eq_ok_iff {matrix : ConstraintMatrix F} {given givenInputs : Value}
    {entries inputEntries : List Value} :
    matrix.givenValues given givenInputs = .ok (entries, inputEntries) ↔
      given.entries = .ok entries ∧ givenInputs.entries = .ok inputEntries ∧
        (entries.length : Int) = matrix.numVars ∧
        inputEntries.length = matrix.bindingVars.length ∧
        inputEntries.length = matrix.bindingRows.length := by
  rw [givenValues, bind_eq_ok_iff]
  constructor
  · rintro ⟨found, hfound, hrest⟩
    by_cases hlength : (found.length : Int) = matrix.numVars
    · rw [if_pos hlength, bind_eq_ok_iff] at hrest
      obtain ⟨foundInputs, hfoundInputs, hrest⟩ := hrest
      by_cases hcount : foundInputs.length = matrix.bindingVars.length ∧
          foundInputs.length = matrix.bindingRows.length
      · rw [if_pos hcount] at hrest
        cases hrest
        exact ⟨hfound, hfoundInputs, hlength, hcount⟩
      · rw [if_neg hcount] at hrest
        cases hrest
    · rw [if_neg hlength] at hrest
      cases hrest
  · rintro ⟨hfound, hfoundInputs, hlength, hcount⟩
    refine ⟨entries, hfound, ?_⟩
    rw [if_pos hlength, hfoundInputs, except_bind_ok, if_pos hcount]
    rfl

/-! ### Why a row fails -/

/-- The input of the binding is not the value of its variable. -/
def Mismatched (witness : List (Element F)) (binding : PublicBinding F) : Prop :=
  binding.value ≠ assignment witness binding.boundVar.toNat

instance (witness : List (Element F)) (binding : PublicBinding F) :
    Decidable (Mismatched witness binding) :=
  inferInstanceAs (Decidable (_ ≠ _))

/-- The first binding of a row whose input is not the value of its variable. -/
def mismatch? (witness : List (Element F)) (bindings : List (PublicBinding F)) (row : Nat) :
    Option (PublicBinding F) :=
  bindings.find? fun binding => binding.row = (row : Int) ∧ Mismatched witness binding

/-- The values of the wires of a row. -/
def wiresAt (matrix : ConstraintMatrix F) (witness : List (Element F)) (row : Nat) :
    List (Element F) :=
  matrix.wiring.map fun column => assignment witness (column.getD row 0).toNat

/-- The selectors of a row. -/
def selectorsAt (selectors : List (List (Element F))) (row : Nat) : List (Element F) :=
  selectors.map (·.getD row 0)

/-- Why a row fails whose gate equation has the given residual: a binding that does not
match comes before the residual. -/
def rejectionAt (matrix : ConstraintMatrix F) (selectors : List (List (Element F)))
    (witness : List (Element F)) (bindings : List (PublicBinding F)) (residual : Element F)
    (row : Nat) : Rejection :=
  match mismatch? witness bindings row with
  | some binding =>
    .publicInputMismatch row binding.boundVar binding.value.val
      (assignment witness binding.boundVar.toNat).val
  | none =>
    .unsatisfiedGate row ((matrix.wiresAt witness row).map Element.val)
      ((selectorsAt selectors row).map Element.val) residual.val

theorem mismatch?_isSome_iff {witness : List (Element F)} {bindings : List (PublicBinding F)}
    {row : Nat} : (mismatch? witness bindings row).isSome ↔
      ∃ binding ∈ bindings, binding.row = (row : Int) ∧ Mismatched witness binding := by
  simp [mismatch?, List.find?_isSome]

/-- The columns of the matrix are as many and as long as they have to be, and its entries
point to variables and rows that are there. -/
structure WellShaped (matrix : ConstraintMatrix F) (selectors : List (List (Element F))) :
    Prop where
  selectorColumns_eq : matrix.selectorColumns = .ok selectors
  length_wiring : matrix.wiring.length = Wires.count
  length_selectors : selectors.length = Selectors.count
  length_wire : ∀ column ∈ matrix.wiring, (column.length : Int) = matrix.size
  length_selector : ∀ column ∈ selectors, (column.length : Int) = matrix.size
  wire_lt : ∀ column ∈ matrix.wiring, ∀ index ∈ column, 0 ≤ index ∧ index < matrix.numVars
  bindingRow_lt : ∀ row ∈ matrix.bindingRows, 0 ≤ row ∧ row < matrix.size
  bindingVar_lt : ∀ index ∈ matrix.bindingVars, 0 ≤ index ∧ index < matrix.numVars

theorem WellShaped.length_head {matrix : ConstraintMatrix F} {selectors : List (List (Element F))}
    (hmatrix : matrix.WellShaped selectors) :
    ((matrix.wiring.headD []).length : Int) = matrix.size := by
  have hcount := hmatrix.length_wiring
  have hwire := hmatrix.length_wire
  cases hwiring : matrix.wiring with
  | nil =>
      rw [hwiring] at hcount
      exact absurd hcount (by decide)
  | cons column columns =>
      rw [hwiring] at hwire
      exact hwire column List.mem_cons_self

theorem WellShaped.size_nonneg {matrix : ConstraintMatrix F}
    {selectors : List (List (Element F))} (hmatrix : matrix.WellShaped selectors) :
    0 ≤ matrix.size := by
  rw [← hmatrix.length_head]
  exact Int.natCast_nonneg _

/-- The arguments stand for a value of every variable and an input of every binding. -/
structure Supplies (matrix : ConstraintMatrix F) (given givenInputs : Value)
    (witness inputs : List (Element F)) : Prop where
  witness_eq : given.elements F = .ok witness
  inputs_eq : givenInputs.elements F = .ok inputs
  length_witness : (witness.length : Int) = matrix.numVars
  length_vars : inputs.length = matrix.bindingVars.length
  length_rows : inputs.length = matrix.bindingRows.length

theorem Supplies.givenValues {matrix : ConstraintMatrix F} {given givenInputs : Value}
    {witness inputs : List (Element F)}
    (hsupplies : matrix.Supplies given givenInputs witness inputs) :
    ∃ entries inputEntries, matrix.givenValues given givenInputs = .ok (entries, inputEntries) ∧
      Value.toColumn F entries = .ok witness ∧ Value.toColumn F inputEntries = .ok inputs := by
  obtain ⟨entries, hentries, hwitness⟩ := bind_eq_ok_iff.mp hsupplies.witness_eq
  obtain ⟨inputEntries, hinputEntries, hinputs⟩ := bind_eq_ok_iff.mp hsupplies.inputs_eq
  have hlength := length_of_mapM_eq_ok hwitness
  have hcount := length_of_mapM_eq_ok hinputs
  refine ⟨entries, inputEntries, givenValues_eq_ok_iff.mpr ⟨hentries, hinputEntries, ?_, ?_, ?_⟩,
    hwitness, hinputs⟩
  · rw [← hlength, hsupplies.length_witness]
  · rw [← hcount, hsupplies.length_vars]
  · rw [← hcount, hsupplies.length_rows]

theorem exists_supplies_of_verify {matrix : ConstraintMatrix F} {given givenInputs : Value}
    (hverify : matrix.verify given givenInputs = .ok ()) :
    ∃ witness inputs, matrix.Supplies given givenInputs witness inputs := by
  obtain ⟨⟨entries, inputEntries⟩, hgiven, hrest⟩ := bind_eq_ok_iff.mp hverify
  obtain ⟨hentries, hinputEntries, hlength, hvars, hrows⟩ := givenValues_eq_ok_iff.mp hgiven
  obtain ⟨witness, hwitness, hrest⟩ := bind_eq_ok_iff.mp hrest
  obtain ⟨inputs, hinputs, _⟩ := bind_eq_ok_iff.mp hrest
  have hcount := length_of_mapM_eq_ok hinputs
  refine ⟨witness, inputs, bind_eq_ok_iff.mpr ⟨entries, hentries, hwitness⟩,
    bind_eq_ok_iff.mpr ⟨inputEntries, hinputEntries, hinputs⟩, ?_, hcount.trans hvars,
    hcount.trans hrows⟩
  rw [length_of_mapM_eq_ok hwitness, hlength]

section Rows

variable {matrix : ConstraintMatrix F} {selectors : List (List (Element F))}
  {witness : List (Element F)} {bindings : List (PublicBinding F)}

theorem entryAt_toNat {index : Int} (hindex : 0 ≤ index ∧ index < witness.length) :
    entryAt witness index = .ok (assignment witness index.toNat) := by
  have hnat : index = (index.toNat : Int) := (Int.toNat_of_nonneg hindex.1).symm
  rw [hnat, entryAt_assignment (by omega), Int.toNat_natCast]

/-- The search for the public value of a row ends at the first binding that does not
match, and otherwise with the input of the last binding. -/
theorem publicValueAt_eq (row : Nat)
    (hvars : ∀ binding ∈ bindings, 0 ≤ binding.boundVar ∧ binding.boundVar < witness.length) :
    publicValueAt witness bindings row =
      match mismatch? witness bindings row with
      | some binding =>
        .error (.rejected (.publicInputMismatch row binding.boundVar binding.value.val
          (assignment witness binding.boundVar.toNat).val))
      | none => .ok (lastPublic bindings row 0) := by
  change bindings.foldlM (publicStep witness row) 0 = _
  -- for any value found so far, which `lastPublic` starts from as well
  generalize (0 : Element F) = initial
  induction bindings generalizing initial with
  | nil => rfl
  | cons binding bindings ih =>
      rw [List.forall_mem_cons] at hvars
      obtain ⟨hvar, hrest⟩ := hvars
      rw [List.foldlM_cons, mismatch?, List.find?_cons, ← mismatch?, lastPublic,
        List.foldl_cons, ← lastPublic]
      by_cases hrow : binding.row = (row : Int)
      · rw [publicStep, if_pos hrow, if_pos hrow, entryAt_toNat hvar, except_bind_ok]
        by_cases hmatch : assignment witness binding.boundVar.toNat = binding.value
        · have hfound : ¬ (binding.row = (row : Int) ∧ Mismatched witness binding) :=
            fun hboth => hboth.2 hmatch.symm
          rw [if_pos hmatch, decide_eq_false hfound]
          exact ih hrest binding.value
        · have hfound : binding.row = (row : Int) ∧ Mismatched witness binding :=
            ⟨hrow, Ne.symm hmatch⟩
          rw [if_neg hmatch, decide_eq_true hfound]
          rfl
      · have hfound : ¬ (binding.row = (row : Int) ∧ Mismatched witness binding) :=
          fun hboth => hrow hboth.1
        rw [publicStep, if_neg hrow, if_neg hrow, decide_eq_false hfound]
        exact ih hrest initial

theorem entryAt_getD {α : Type} {entries : List α} {position : Nat} (default : α)
    (hposition : position < entries.length) :
    entryAt entries (position : Int) = .ok (entries.getD position default) := by
  rw [List.getD_eq_getElem _ _ hposition]
  exact entryAt_ofNat (List.getElem?_eq_getElem hposition)

theorem wiresAt_eq (hmatrix : matrix.WellShaped selectors)
    (hlength : (witness.length : Int) = matrix.numVars) {row : Nat}
    (hrow : (row : Int) < matrix.size) :
    (matrix.wiring.mapM fun column => do entryAt witness (← entryAt column (row : Int))) =
      .ok (matrix.wiresAt witness row) := by
  apply mapM_eq_ok_map
  intro column hcolumn
  have hlt : row < column.length := by
    have hsize := hmatrix.length_wire column hcolumn
    omega
  have hindex : 0 ≤ column.getD row 0 ∧ column.getD row 0 < (witness.length : Int) := by
    rw [List.getD_eq_getElem _ _ hlt, hlength]
    exact hmatrix.wire_lt column hcolumn _ (List.getElem_mem hlt)
  rw [entryAt_getD 0 hlt, except_bind_ok, entryAt_toNat hindex]

theorem selectorsAt_eq (hmatrix : matrix.WellShaped selectors) {row : Nat}
    (hrow : (row : Int) < matrix.size) :
    (selectors.mapM fun column => entryAt column (row : Int)) =
      .ok (selectorsAt selectors row) := by
  apply mapM_eq_ok_map
  intro column hcolumn
  have hsize := hmatrix.length_selector column hcolumn
  exact entryAt_getD 0 (by omega)

/-- The check of a row fails exactly if a binding of the row does not match or the gate
equation does not vanish. -/
theorem checkRow_eq (hmatrix : matrix.WellShaped selectors)
    (hlength : (witness.length : Int) = matrix.numVars)
    (hvars : ∀ binding ∈ bindings, 0 ≤ binding.boundVar ∧ binding.boundVar < matrix.numVars)
    {row : Nat} (hrow : (row : Int) < matrix.size) {residual : Element F}
    (hresidual : Gate.residualOfLists (matrix.wiresAt witness row) (selectorsAt selectors row)
      (lastPublic bindings row 0) = .ok residual) :
    matrix.checkRow selectors witness bindings row =
      if (mismatch? witness bindings row).isSome ∨ residual ≠ 0 then
        .error (.rejected (matrix.rejectionAt selectors witness bindings residual row))
      else .ok () := by
  rw [← hlength] at hvars
  rw [checkRow, publicValueAt_eq row hvars, wiresAt_eq hmatrix hlength hrow,
    selectorsAt_eq hmatrix hrow, rejectionAt]
  cases mismatch? witness bindings row with
  | some binding => rfl
  | none =>
      simp only [except_bind_ok, hresidual, Option.isSome_none, Bool.false_eq_true, false_or]
      by_cases hzero : residual = 0
      · rw [if_pos hzero, if_neg (not_not_intro hzero)]
        rfl
      · rw [if_neg hzero, if_pos hzero]
        rfl

end Rows

section Verify

variable {matrix : ConstraintMatrix F} {selectors : List (List (Element F))}
  {witness inputs : List (Element F)} {given givenInputs : Value}

theorem checkRows_eq_error {bindings : List (PublicBinding F)} {row count failed : Nat}
    {refusal : CircuitError} (hfirst : row ≤ failed) (hlast : failed < row + count)
    (hearlier : ∀ earlier, row ≤ earlier → earlier < failed →
      matrix.checkRow selectors witness bindings earlier = .ok ())
    (hfailed : matrix.checkRow selectors witness bindings failed = .error refusal) :
    matrix.checkRows selectors witness bindings row count = .error refusal := by
  induction count generalizing row with
  | zero => omega
  | succ count ih =>
      rw [checkRows]
      by_cases hrow : row = failed
      · rw [hrow, hfailed, except_bind_error]
      · rw [hearlier row (Nat.le_refl row) (by omega), except_bind_ok]
        exact ih (by omega) (by omega) fun earlier hfrom hto => hearlier earlier (by omega) hto

theorem verify_eq_checkRows (hmatrix : matrix.WellShaped selectors)
    (hsupplies : matrix.Supplies given givenInputs witness inputs) :
    matrix.verify given givenInputs =
      matrix.checkRows selectors witness (matrix.publicBindings inputs) 0 matrix.size.toNat := by
  obtain ⟨entries, inputEntries, hgiven, hwitness, hinputs⟩ := hsupplies.givenValues
  simp only [verify, hgiven, hwitness, hinputs, hmatrix.selectorColumns_eq, except_bind_ok]

/-- The bindings are the rows, variables and inputs at one position each. -/
theorem mem_publicBindings_iff {binding : PublicBinding F} :
    binding ∈ matrix.publicBindings inputs ↔
      ∃ position : Nat, matrix.bindingRows[position]? = some binding.row ∧
        matrix.bindingVars[position]? = some binding.boundVar ∧
        inputs[position]? = some binding.value := by
  rw [List.mem_iff_getElem?]
  apply exists_congr
  intro position
  rw [publicBindings, List.getElem?_zipWith_eq_some]
  constructor
  · rintro ⟨place, value, hplace, hvalue, rfl⟩
    rw [List.getElem?_zip_eq_some] at hplace
    exact ⟨hplace.1, hplace.2, hvalue⟩
  · rintro ⟨hrow, hvar, hvalue⟩
    exact ⟨⟨_, _⟩, _, List.getElem?_zip_eq_some.mpr ⟨hrow, hvar⟩, hvalue, rfl⟩

theorem row_lt_of_mem_publicBindings (hmatrix : matrix.WellShaped selectors) :
    ∀ binding ∈ matrix.publicBindings inputs, 0 ≤ binding.row ∧ binding.row < matrix.size := by
  intro binding hbinding
  obtain ⟨position, hrow, _, _⟩ := mem_publicBindings_iff.mp hbinding
  exact hmatrix.bindingRow_lt _ (List.mem_of_getElem? hrow)

theorem boundVar_lt_of_mem_publicBindings (hmatrix : matrix.WellShaped selectors) :
    ∀ binding ∈ matrix.publicBindings inputs,
      0 ≤ binding.boundVar ∧ binding.boundVar < matrix.numVars := by
  intro binding hbinding
  obtain ⟨position, _, hvar, _⟩ := mem_publicBindings_iff.mp hbinding
  exact hmatrix.bindingVar_lt _ (List.mem_of_getElem? hvar)

/-- Every public input is the value of its variable exactly if no binding fails to match. -/
theorem inputs_eq_map_iff (hsupplies : matrix.Supplies given givenInputs witness inputs) :
    (inputs = matrix.bindingVars.map fun index => assignment witness index.toNat) ↔
      ∀ binding ∈ matrix.publicBindings inputs, ¬ Mismatched witness binding := by
  constructor
  · intro hinputs binding hbinding
    obtain ⟨position, _, hvar, hvalue⟩ := mem_publicBindings_iff.mp hbinding
    rw [hinputs, List.getElem?_map, hvar, Option.map_some, Option.some.injEq] at hvalue
    exact not_not_intro hvalue.symm
  · intro hmatch
    apply List.ext_getElem
    · rw [List.length_map, hsupplies.length_vars]
    · intro position hposition hvar
      rw [List.length_map] at hvar
      rw [List.getElem_map]
      have hrow : position < matrix.bindingRows.length := hsupplies.length_rows ▸ hposition
      have hbinding : ⟨matrix.bindingRows[position], matrix.bindingVars[position],
          inputs[position]⟩ ∈ matrix.publicBindings inputs :=
        mem_publicBindings_iff.mpr ⟨position, List.getElem?_eq_getElem hrow,
          List.getElem?_eq_getElem hvar, List.getElem?_eq_getElem hposition⟩
      exact not_not.mp (hmatch _ hbinding)

end Verify

end ConstraintMatrix

end Plonkish
