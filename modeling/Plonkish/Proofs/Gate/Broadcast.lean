import Plonkish.Proofs.Gate.Extent

/-!
# The gate equation on operands of any extents

The gate equation combines nineteen operands in many steps.  Each intermediate result is
either the refusal of lengths that do not fit, or it extends as far as the operands that it
is made of, with the values that these give it row by row.  The whole equation uses all of
its operands, so its extent is theirs, in whatever order they meet.
-/

namespace Plonkish

variable {F : BaseField}

/-- A value at every row, with the operands that it is made of. -/
structure Term (F : BaseField) where
  operands : List (Operand F)
  entry : Nat → Element F

namespace Term

def leaf (operand : Operand F) : Term F :=
  ⟨[operand], operand.atRow⟩

def combine (operation : Element F → Element F → Element F) (left right : Term F) : Term F where
  operands := left.operands ++ right.operands
  entry row := operation (left.entry row) (right.entry row)

def pow (base : Term F) (exponent : Nat) : Term F where
  operands := base.operands
  entry row := (base.entry row).pow exponent

def map (operation : Element F → Element F) (base : Term F) : Term F where
  operands := base.operands
  entry row := operation (base.entry row)

end Term

namespace Operand

/-- How far operands extend together. -/
def extentOf (operands : List (Operand F)) : Extent :=
  operands.toFinset.sup extent

variable {all : List (Operand F)}

theorem extent_le_extentOf {operand : Operand F} (hmem : operand ∈ all) :
    operand.extent ≤ extentOf all :=
  Finset.le_sup (List.mem_toFinset.mpr hmem)

theorem extentOf_le {extent : Extent} (hle : ∀ operand ∈ all, operand.extent ≤ extent) :
    extentOf all ≤ extent :=
  Finset.sup_le fun operand hmem => hle operand (List.mem_toFinset.mp hmem)

theorem extentOf_mono {some : List (Operand F)} (hsubset : some ⊆ all) :
    extentOf some ≤ extentOf all :=
  extentOf_le fun _ hmem => extent_le_extentOf (hsubset hmem)

theorem extentOf_append (lefts rights : List (Operand F)) :
    extentOf (lefts ++ rights) = extentOf lefts ⊔ extentOf rights := by
  rw [extentOf, List.toFinset_append, Finset.sup_union, extentOf, extentOf]

/-- The operand has the values of a term that is made of some of the given operands, and
extends as far as these. -/
structure Tabulates (all : List (Operand F)) (term : Term F) (operand : Operand F) : Prop where
  subset : term.operands ⊆ all
  extent_eq : operand.extent = extentOf term.operands
  atRow_eq : ∀ row, operand.extent.Covers row → operand.atRow row = term.entry row

/-- The result has the values of a term or, where the given operands do not fit together, is
the refusal for that. -/
inductive Gives (all : List (Operand F)) (term : Term F) : Except CircuitError (Operand F) → Prop
  | ok {operand : Operand F} (htabulates : Tabulates all term operand) :
      Gives all term (.ok operand)
  | mismatched (hmismatched : extentOf all = .mismatched) :
      Gives all term (.error (.input .lengthMismatch))

section Steps

variable {left right : Operand F} {term other : Term F}

theorem tabulates_leaf {operand : Operand F} (hmem : operand ∈ all) :
    Tabulates all (.leaf operand) operand where
  subset := List.cons_subset.mpr ⟨hmem, List.nil_subset _⟩
  extent_eq := Finset.sup_singleton.symm
  atRow_eq _ _ := rfl

theorem Tabulates.map (hleft : Tabulates all term left) (operation : Element F → Element F) :
    Tabulates all (term.map operation) (left.map operation) where
  subset := hleft.subset
  extent_eq := (extent_map _ _).trans hleft.extent_eq
  atRow_eq row hcovers := by
    have hcovered : left.extent.Covers row := extent_map _ left ▸ hcovers
    rw [atRow_map _ hcovered, hleft.atRow_eq row hcovered]
    rfl

theorem Tabulates.pow (hleft : Tabulates all term left) (exponent : Nat) :
    Tabulates all (term.pow exponent) (left.pow exponent) :=
  hleft.map (Element.pow · exponent)

theorem Tabulates.combine (hleft : Tabulates all term left) (hright : Tabulates all other right)
    (operation : Element F → Element F → Element F) :
    Gives all (.combine operation term other) (combine operation left right) := by
  have hextent : left.extent ⊔ right.extent = extentOf (term.operands ++ other.operands) := by
    rw [extentOf_append, hleft.extent_eq, hright.extent_eq]
  have hsubset := List.append_subset.mpr ⟨hleft.subset, hright.subset⟩
  by_cases hfits : left.extent ⊔ right.extent = .mismatched
  · rw [combine_eq_error operation hfits]
    exact .mismatched (top_le_iff.mp ((hfits.symm.trans hextent).le.trans (extentOf_mono hsubset)))
  · obtain ⟨result, hresult, hcombination⟩ := combine_eq_ok operation hfits
    rw [hresult]
    refine .ok ⟨hsubset, hcombination.extent_eq.trans hextent, fun row hcovers => ?_⟩
    have hcovered := hcombination.extent_eq ▸ hcovers
    rw [hcombination.atRow_eq row hcovers, hleft.atRow_eq row (hcovered.of_le le_sup_left),
      hright.atRow_eq row (hcovered.of_le le_sup_right)]
    rfl

/-- What is refused on the way is refused in the end. -/
theorem Gives.bind {first : Except CircuitError (Operand F)}
    {next : Operand F → Except CircuitError (Operand F)} (hfirst : Gives all term first)
    (hnext : ∀ operand, Tabulates all term operand → Gives all other (next operand)) :
    Gives all other (first >>= next) := by
  cases hfirst with
  | ok htabulates => exact hnext _ htabulates
  | mismatched hmismatched => exact .mismatched hmismatched

/-- How far a term extends depends on its operands only, and not on how they are combined. -/
theorem Gives.complete {result : Except CircuitError (Operand F)} (hgives : Gives all term result)
    (hall : all ⊆ term.operands) : Gives all ⟨all, term.entry⟩ result := by
  cases hgives with
  | mismatched hmismatched => exact .mismatched hmismatched
  | ok htabulates =>
      have hextent : extentOf term.operands = extentOf all :=
        le_antisymm (extentOf_mono htabulates.subset) (extentOf_mono hall)
      exact .ok ⟨List.Subset.refl all, htabulates.extent_eq.trans hextent, htabulates.atRow_eq⟩

/-- Operands are combined with a first one after the other. -/
theorem Tabulates.foldlM (operation : Element F → Element F → Element F)
    {operands : List (Operand F)} {terms : List (Term F)}
    (hoperands : List.Forall₂ (Tabulates all) terms operands)
    (hleft : Tabulates all term left) :
    Gives all (terms.foldl (.combine operation) term)
      (operands.foldlM (Operand.combine operation) left) := by
  induction hoperands generalizing term left with
  | nil => exact .ok hleft
  | cons hoperand _ ih => exact (hleft.combine hoperand operation).bind fun _ hnext => ih hnext

end Steps

/-! ### The length that operands have in common -/

/-- The lengths of the operands that are columns. -/
def columnLengths (operands : List (Operand F)) : List Nat :=
  operands.filterMap fun
    | single _ => none
    | column values => some values.length

/-- Two columns have different lengths, neither of which is one. -/
def Clash (operands : List (Operand F)) : Prop :=
  ∃ left ∈ columnLengths operands, ∃ right ∈ columnLengths operands,
    left ≠ 1 ∧ right ≠ 1 ∧ left ≠ right

instance (operands : List (Operand F)) : Decidable (Clash operands) :=
  inferInstanceAs (Decidable (∃ left ∈ columnLengths operands,
    ∃ right ∈ columnLengths operands, left ≠ 1 ∧ right ≠ 1 ∧ left ≠ right))

/-- The length of the columns that do not have length one, or one if there are no others.
Single elements have none. -/
def commonLength? (operands : List (Operand F)) : Option Nat :=
  match columnLengths operands with
  | [] => none
  | lengths => some ((lengths.find? (· ≠ 1)).getD 1)

theorem mem_columnLengths_iff {length : Nat} :
    length ∈ columnLengths all ↔ ∃ operand ∈ all, operand.extent = .column length := by
  rw [columnLengths, List.mem_filterMap]
  refine exists_congr fun operand => and_congr_right fun _ => ?_
  cases operand <;> simp [extent]

theorem column_le_extentOf {length : Nat} (hlength : length ∈ columnLengths all) :
    .column length ≤ extentOf all := by
  obtain ⟨operand, hmem, hextent⟩ := mem_columnLengths_iff.mp hlength
  exact hextent ▸ extent_le_extentOf hmem

theorem extentOf_le_of_lengths {extent : Extent}
    (hlengths : ∀ length ∈ columnLengths all, .column length ≤ extent) :
    extentOf all ≤ extent := by
  refine extentOf_le fun operand hmem => ?_
  cases operand with
  | single value => exact bot_le
  | column values => exact hlengths _ (mem_columnLengths_iff.mpr ⟨_, hmem, rfl⟩)

theorem extentOf_of_clash (hclash : Clash all) : extentOf all = .mismatched := by
  obtain ⟨left, hleft, right, hright, hjoin⟩ := hclash
  refine top_le_iff.mp ?_
  calc (⊤ : Extent)
      = .column left ⊔ .column right := (Extent.column_sup_column_eq_mismatched_iff.mpr hjoin).symm
    _ ≤ extentOf all := sup_le (column_le_extentOf hleft) (column_le_extentOf hright)

theorem extentOf_of_commonLength?_none (hnone : commonLength? all = none) :
    extentOf all = .single := by
  have hlengths : columnLengths all = [] := by
    rw [commonLength?] at hnone
    split at hnone
    · assumption
    · cases hnone
  refine le_bot_iff.mp (extentOf_le_of_lengths ?_)
  rw [hlengths]
  exact nofun

theorem extentOf_of_commonLength?_some {count : Nat} (hfits : ¬ Clash all)
    (hcount : commonLength? all = some count) : extentOf all = .column count := by
  have hcommon : count ∈ columnLengths all ∧
      ∀ length ∈ columnLengths all, length = 1 ∨ length = count := by
    rw [commonLength?] at hcount
    split at hcount
    · cases hcount
    · next hne =>
      obtain rfl := Option.some.inj hcount
      cases hfind : (columnLengths all).find? (· ≠ 1) with
      | some other =>
          have hother := List.mem_of_find?_eq_some hfind
          refine ⟨hother, fun length hlength => or_iff_not_imp_left.mpr fun hone => ?_⟩
          have hotherOne : other ≠ 1 := by simpa using List.find?_some hfind
          by_contra hdiffer
          exact hfits ⟨length, hlength, other, hother, hone, hotherOne, hdiffer⟩
      | none =>
          have hones : ∀ length ∈ columnLengths all, length = 1 := by simpa using hfind
          refine ⟨?_, fun length hlength => .inl (hones length hlength)⟩
          obtain ⟨length, hlength⟩ := List.exists_mem_of_ne_nil _ hne
          exact hones length hlength ▸ hlength
  refine le_antisymm (extentOf_le_of_lengths fun length hlength => ?_)
    (column_le_extentOf hcommon.1)
  exact Extent.column_le_column_iff.mpr (hcommon.2 length hlength)

theorem extentOf_eq_mismatched_iff : extentOf all = .mismatched ↔ Clash all := by
  refine ⟨fun hmismatched => ?_, extentOf_of_clash⟩
  by_contra hfits
  cases hcount : commonLength? all with
  | none => cases hmismatched.symm.trans (extentOf_of_commonLength?_none hcount)
  | some count => cases hmismatched.symm.trans (extentOf_of_commonLength?_some hfits hcount)

end Operand

namespace Gate

open Operand

variable (w : Wires (Operand F)) (q : Selectors (Operand F)) (publicValue : Operand F)

/-- The operands of the gate equation. -/
def operands : List (Operand F) :=
  w.toList ++ q.toList ++ [publicValue]

theorem forall_mem_operands_iff {property : Operand F → Prop} :
    (∀ operand ∈ operands w q publicValue, property operand) ↔
      (property w.w1 ∧ property w.w2 ∧ property w.w3 ∧ property w.w4 ∧ property w.wo) ∧
      (property q.q1 ∧ property q.q2 ∧ property q.q3 ∧ property q.q4 ∧
        property q.qm1 ∧ property q.qm2 ∧ property q.qc ∧ property q.qecc ∧
        property q.qh1 ∧ property q.qh2 ∧ property q.qh3 ∧ property q.qh4 ∧ property q.qo) ∧
      property publicValue := by
  simp only [operands, Wires.toList, Selectors.toList, List.forall_mem_append,
    List.forall_mem_cons, List.not_mem_nil, false_imp_iff, implies_true, and_true, and_assoc]

def residualAt (row : Nat) : Element F :=
  residual (w.map (atRow row)) (q.map (atRow row)) (publicValue.atRow row)

theorem gives_evaluate :
    Gives (operands w q publicValue) ⟨operands w q publicValue, residualAt w q publicValue⟩
      (evaluate w q publicValue) := by
  obtain ⟨all, hall⟩ : ∃ all, all = operands w q publicValue := ⟨_, rfl⟩
  have hleaf : ∀ operand ∈ operands w q publicValue, Tabulates all (.leaf operand) operand :=
    fun _ hmem => tabulates_leaf (hall ▸ hmem)
  obtain ⟨⟨hw1, hw2, hw3, hw4, hwo⟩, ⟨hq1, hq2, hq3, hq4, hqm1, hqm2, hqc, hqecc, hqh1, hqh2, hqh3,
    hqh4, hqo⟩, hpublic⟩ := (forall_mem_operands_iff w q publicValue).mp hleaf
  rw [← hall]
  refine (hq1.combine hw1 _).bind fun _ h1 => (hq2.combine hw2 _).bind fun _ h2 =>
    (hq3.combine hw3 _).bind fun _ h3 => (hq4.combine hw4 _).bind fun _ h4 => ?_
  refine (h1.foldlM _ (.cons h2 (.cons h3 (.cons h4 .nil)))).bind fun _ hlinear => ?_
  refine (hw1.combine hw2 _).bind fun _ h12 => (hqm1.combine h12 _).bind fun _ hm1 =>
    (hw3.combine hw4 _).bind fun _ h34 => (hqm2.combine h34 _).bind fun _ hm2 => ?_
  refine (hm1.combine hm2 _).bind fun _ hproducts => ?_
  refine (hw1.foldlM _ (.cons hw2 (.cons hw3 (.cons hw4 (.cons hwo .nil))))).bind fun _ hwires =>
    (hqecc.combine hwires _).bind fun _ hproductOfAll => ?_
  refine (hqh1.combine (hw1.pow 5) _).bind fun _ hh1 =>
    (hqh2.combine (hw2.pow 5) _).bind fun _ hh2 =>
    (hqh3.combine (hw3.pow 5) _).bind fun _ hh3 =>
    (hqh4.combine (hw4.pow 5) _).bind fun _ hh4 => ?_
  refine (hh1.foldlM _ (.cons hh2 (.cons hh3 (.cons hh4 .nil)))).bind fun _ hpowers => ?_
  refine (hqc.combine hpublic _).bind fun _ hconstant => ?_
  refine (hlinear.foldlM _ (.cons hproducts (.cons hproductOfAll (.cons hpowers
    (.cons hconstant .nil))))).bind fun _ htotal => ?_
  refine (hqo.combine hwo _).bind fun _ hout => (htotal.combine hout _).complete ?_
  simp only [hall, operands, Wires.toList, Selectors.toList, Term.combine, Term.leaf, Term.pow,
    List.foldl_cons, List.foldl_nil, List.cons_append, List.nil_append, List.cons_subset,
    List.mem_cons, true_or, or_true, List.nil_subset, and_self]

theorem evaluateLists_atRow (row : Nat) :
    evaluateLists (w.map fun operand => .single (operand.atRow row)).toList
        (q.map fun operand => .single (operand.atRow row)).toList
        (.single (publicValue.atRow row)) = .ok (.single (residualAt w q publicValue row)) := rfl

/-- Nothing but the lengths of the columns decides whether the gate equation has a value, and
each entry of a column of values is the value at that row. -/
theorem evaluateLists_row_by_row :
    (evaluateLists w.toList q.toList publicValue = .error (.input .lengthMismatch) ↔
      Clash (operands w q publicValue)) ∧
    (¬ Clash (operands w q publicValue) →
      (commonLength? (operands w q publicValue) = none →
        ∃ value, evaluateLists w.toList q.toList publicValue = .ok (.single value)) ∧
      ∀ count, commonLength? (operands w q publicValue) = some count →
        ∃ values, evaluateLists w.toList q.toList publicValue = .ok (.column values) ∧
          values.length = count ∧ ∀ (row : Nat) value, values[row]? = some value →
            evaluateLists (w.map fun operand => .single (operand.atRow row)).toList
                (q.map fun operand => .single (operand.atRow row)).toList
                (.single (publicValue.atRow row)) = .ok (.single value)) := by
  have hevaluate : evaluateLists w.toList q.toList publicValue = evaluate w q publicValue := rfl
  have hgives := gives_evaluate w q publicValue
  rw [hevaluate]
  generalize evaluate w q publicValue = result at hgives
  cases hgives with
  | mismatched hmismatched =>
      have hclash := extentOf_eq_mismatched_iff.mp hmismatched
      exact ⟨iff_of_true rfl hclash, fun hfits => absurd hclash hfits⟩
  | @ok operand htabulates =>
      have hextent : operand.extent = extentOf (operands w q publicValue) := htabulates.extent_eq
      have hfits : ¬ Clash (operands w q publicValue) := by
        intro hclash
        have hmismatched := hextent.trans (extentOf_of_clash hclash)
        cases operand <;> cases hmismatched
      refine ⟨iff_of_false nofun hfits, fun _ => ⟨fun hnone => ?_, fun count hcount => ?_⟩⟩
      · have hsingle := hextent.trans (extentOf_of_commonLength?_none hnone)
        cases operand with
        | single value => exact ⟨value, rfl⟩
        | column values => cases hsingle
      · have hcolumn := hextent.trans (extentOf_of_commonLength?_some hfits hcount)
        cases operand with
        | single value => cases hcolumn
        | column values =>
            obtain hlength : values.length = count := Extent.column.inj hcolumn
            refine ⟨values, rfl, hlength, fun row value hvalue => ?_⟩
            have hlt := (List.getElem?_eq_some_iff.mp hvalue).1
            rw [← atRow_of_getElem? hvalue, htabulates.atRow_eq row (.inr hlt)]
            exact evaluateLists_atRow w q publicValue row

/-- Columns of three entries and of one meet single elements. -/
theorem evaluateLists_row_by_row_mixed :
    let w : Wires (Operand .goldilocks) :=
      ⟨.column [1, .ofNat _ 2, .ofNat _ 3], .column [.ofNat _ 5], .single 1, .single 0, .column []⟩
    let fitting : Wires (Operand .goldilocks) := { w with wo := .single 1 }
    let q : Selectors (Operand .goldilocks) :=
      ⟨.single 1, .column [1], .single 0, .single 0, .single 1, .single 0, .single 0, .single 0,
        .single 0, .single 0, .single 0, .single 0, .column [0, 0, 1]⟩
    evaluateLists w.toList q.toList (.single 0) = .error (.input .lengthMismatch) ∧
      ¬ Clash (operands fitting q (.single 0)) ∧
      ∃ values, evaluateLists fitting.toList q.toList (.single 0) = .ok (.column values) ∧
        values.length = 3 := by
  intro w fitting q
  have hfits : ¬ Clash (operands fitting q (.single 0)) := by decide
  obtain ⟨values, hvalues, hlength, _⟩ :=
    ((evaluateLists_row_by_row fitting q (.single 0)).2 hfits).2 3 (by decide)
  exact ⟨(evaluateLists_row_by_row w q (.single 0)).1.mpr (by decide), hfits, values, hvalues,
    hlength⟩

end Gate

end Plonkish
