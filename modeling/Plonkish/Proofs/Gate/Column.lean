import Mathlib.Data.List.GetD
import Plonkish.Gate.Column
import Plonkish.Proofs.Gate.Relation
import Plonkish.Proofs.Refusal

/-!
# Columns are evaluated row by row

On columns of one length the gate equation is evaluated entry by entry, so the result
is the column of the residuals of the rows.  A column with one entry is repeated where
lengths differ; where they agree this makes no difference.
-/

namespace Plonkish

variable {F : BaseField}

theorem combineColumns_of_length_eq {operation : Element F → Element F → Element F}
    {lefts rights : List (Element F)} (hlength : lefts.length = rights.length) :
    combineColumns operation lefts rights = .ok (List.zipWith operation lefts rights) := by
  unfold combineColumns
  split
  · next left rights =>
      obtain ⟨right, rfl⟩ := List.length_eq_one_iff.mp hlength.symm
      rfl
  · next lefts right _ =>
      obtain ⟨left, rfl⟩ := List.length_eq_one_iff.mp hlength
      rfl
  · exact if_pos hlength

theorem getD_map_range (entry : Nat → Element F) {count row : Nat} (hrow : row < count) :
    ((List.range count).map entry).getD row 0 = entry row := by
  have hlength : row < ((List.range count).map entry).length := by
    rwa [List.length_map, List.length_range]
  rw [List.getD_eq_getElem _ _ hlength, List.getElem_map, List.getElem_range]

namespace Operand

/-- The column with the given entry at every row below `count`. -/
def tabulate (count : Nat) (entry : Nat → Element F) : Operand F :=
  column ((List.range count).map entry)

theorem column_eq_tabulate (values : List (Element F)) :
    column values = tabulate values.length (values.getD · 0) := by
  refine congrArg column (List.ext_getElem (by simp) fun row hrow _ => ?_)
  rw [List.getElem_map, List.getElem_range, List.getD_eq_getElem _ _ hrow]

section Tabulate

variable (count : Nat) (left right : Nat → Element F)

theorem combine_tabulate (operation : Element F → Element F → Element F) :
    combine operation (tabulate count left) (tabulate count right) =
      .ok (tabulate count fun row => operation (left row) (right row)) := by
  rw [tabulate, tabulate, combine, combineColumns_of_length_eq (by simp), except_bind_ok,
    List.zipWith_map, List.zipWith_self]
  rfl

theorem add_tabulate : (tabulate count left).add (tabulate count right) =
    .ok (tabulate count fun row => left row + right row) :=
  combine_tabulate count left right _

theorem sub_tabulate : (tabulate count left).sub (tabulate count right) =
    .ok (tabulate count fun row => left row - right row) :=
  combine_tabulate count left right _

theorem mul_tabulate : (tabulate count left).mul (tabulate count right) =
    .ok (tabulate count fun row => left row * right row) :=
  combine_tabulate count left right _

theorem pow_tabulate (exponent : Nat) : (tabulate count left).pow exponent =
    tabulate count fun row => (left row).pow exponent := by
  rw [tabulate, pow, map, List.map_map]
  rfl

end Tabulate

end Operand

namespace Selectors

variable {α β : Type}

def map (f : α → β) (sels : Selectors α) : Selectors β :=
  ⟨f sels.q1, f sels.q2, f sels.q3, f sels.q4, f sels.qm1, f sels.qm2, f sels.qc, f sels.qecc,
    f sels.qh1, f sels.qh2, f sels.qh3, f sels.qh4, f sels.qo⟩

theorem exists_eq_toList {entries : List α} (hcount : entries.length = count) :
    ∃ sels : Selectors α, entries = sels.toList :=
  match entries, hcount with
  | [_, _, _, _, _, _, _, _, _, _, _, _, _], _ => ⟨⟨_, _, _, _, _, _, _, _, _, _, _, _, _⟩, rfl⟩

end Selectors

theorem Wires.exists_eq_toList {α : Type} {entries : List α} (hcount : entries.length = count) :
    ∃ wires : Wires α, entries = wires.toList :=
  match entries, hcount with
  | [_, _, _, _, _], _ => ⟨⟨_, _, _, _, _⟩, rfl⟩

namespace Gate

open Operand

theorem evaluate_tabulate (count : Nat) (w : Wires (Nat → Element F))
    (q : Selectors (Nat → Element F)) (publicValue : Nat → Element F) :
    evaluate (w.map (tabulate count)) (q.map (tabulate count)) (tabulate count publicValue) =
      .ok (tabulate count fun row =>
        residual (w.map (· row)) (q.map (· row)) (publicValue row)) := by
  simp only [evaluate, Wires.map, Selectors.map, addAll, mulAll, List.foldlM_cons,
    List.foldlM_nil, add_tabulate, sub_tabulate, mul_tabulate, pow_tabulate, except_bind_ok,
    pure_bind]
  rfl

/-- On columns of one length the gate equation gives the residual of every row. -/
theorem evaluateLists_columns {wires selectors : List (List (Element F))}
    {publicValues : List (Element F)} {count : Nat} (hwires : wires.length = Wires.count)
    (hselectors : selectors.length = Selectors.count)
    (hwire : ∀ column ∈ wires, column.length = count)
    (hselector : ∀ column ∈ selectors, column.length = count)
    (hpublic : publicValues.length = count) :
    ∃ residuals, evaluateLists (wires.map .column) (selectors.map .column)
        (.column publicValues) = .ok (.column residuals) ∧ residuals.length = count ∧
      ∀ row < count, residualOfLists (wires.map (·.getD row 0)) (selectors.map (·.getD row 0))
        (publicValues.getD row 0) = .ok (residuals.getD row 0) := by
  obtain ⟨w, rfl⟩ := Wires.exists_eq_toList hwires
  obtain ⟨q, rfl⟩ := Selectors.exists_eq_toList hselectors
  have hcolumn {column : List (Element F)} (hlength : column.length = count) :
      Operand.column column = tabulate count (column.getD · 0) := by
    rw [← hlength, column_eq_tabulate]
  have hw : w.toList.map .column =
      ((w.map fun column row => column.getD row 0).map (tabulate count)).toList :=
    calc w.toList.map .column
        = w.toList.map fun column => tabulate count (column.getD · 0) :=
          List.map_congr_left fun column hmem => hcolumn (hwire column hmem)
      _ = _ := rfl
  have hq : q.toList.map .column =
      ((q.map fun column row => column.getD row 0).map (tabulate count)).toList :=
    calc q.toList.map .column
        = q.toList.map fun column => tabulate count (column.getD · 0) :=
          List.map_congr_left fun column hmem => hcolumn (hselector column hmem)
      _ = _ := rfl
  refine ⟨(List.range count).map fun row => residual (w.map (·.getD row 0))
    (q.map (·.getD row 0)) (publicValues.getD row 0), ?_, by simp, ?_⟩
  · rw [evaluateLists, hw, hq, Wires.ofList?_toList, Selectors.ofList?_toList, hcolumn hpublic]
    exact evaluate_tabulate count _ _ _
  · intro row hrow
    rw [getD_map_range _ hrow]
    rfl

end Gate

end Plonkish
