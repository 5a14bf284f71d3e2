import Mathlib.Data.List.GetD
import Plonkish.Field.Basic

/-!
# Lists of values as assignments

A witness is a list of values, one for each variable.  What a circuit demands is said of
assignments of values to all indices.  These lemmas go from one to the other when a list
is continued or some of its entries are replaced.
-/

namespace Plonkish

variable {F : BaseField}

/-- The assignment that a list of values stands for. -/
def assignment (values : List (Element F)) (index : Nat) : Element F :=
  values.getD index 0

theorem getElem?_eq_some_assignment {values : List (Element F)} {index : Nat}
    (hindex : index < values.length) : values[index]? = some (assignment values index) := by
  rw [List.getElem?_eq_getElem hindex, assignment, List.getD_eq_getElem _ _ hindex]

theorem assignment_append_left {values : List (Element F)} (added : List (Element F))
    {index : Nat} (hindex : index < values.length) :
    assignment (values ++ added) index = assignment values index := by
  rw [assignment, assignment, List.getD_append _ _ _ _ hindex]

theorem assignment_append_right (values added : List (Element F)) (position : Nat) :
    assignment (values ++ added) (values.length + position) = added.getD position 0 := by
  rw [assignment, List.getD_append_right _ _ _ _ (Nat.le_add_right _ _), Nat.add_sub_cancel_left]

theorem assignment_take (values : List (Element F)) {count index : Nat} (hindex : index < count) :
    assignment (values.take count) index = assignment values index := by
  rw [assignment, assignment, List.getD_eq_getElem?_getD, List.getD_eq_getElem?_getD,
    List.getElem?_take_of_lt hindex]

theorem map_assignment_append (values added : List (Element F)) :
    (List.range' values.length added.length).map (assignment (values ++ added)) = added := by
  apply List.ext_getElem
  · rw [List.length_map, List.length_range']
  · intro position _ hposition
    rw [List.getElem_map, List.getElem_range', Nat.one_mul, assignment_append_right,
      List.getD_eq_getElem _ _ hposition]

theorem getElem?_eq_getElem?_iff {values : List (Element F)} {left right : Nat}
    (hleft : left < values.length) (hright : right < values.length) :
    values[left]? = values[right]? ↔ assignment values left = assignment values right := by
  rw [getElem?_eq_some_assignment hleft, getElem?_eq_some_assignment hright, Option.some.injEq]

/-- A list can be continued so that it stands for a given assignment. -/
theorem exists_append (values : List (Element F)) (count : Nat) (assigned : Nat → Element F)
    (hagree : ∀ index < values.length, assigned index = assignment values index) :
    ∃ added : List (Element F), added.length = count ∧
      ∀ index < values.length + count, assignment (values ++ added) index = assigned index := by
  refine ⟨(List.range' values.length count).map assigned, ?_, ?_⟩
  · rw [List.length_map, List.length_range']
  · intro index hindex
    by_cases hold : index < values.length
    · rw [assignment_append_left _ hold, hagree index hold]
    · obtain ⟨position, rfl⟩ := Nat.exists_eq_add_of_le (Nat.not_lt.mp hold)
      have hposition : position < ((List.range' values.length count).map assigned).length := by
        rw [List.length_map, List.length_range']
        omega
      rw [assignment_append_right, List.getD_eq_getElem _ _ hposition, List.getElem_map,
        List.getElem_range', Nat.one_mul]

theorem getElem?_eq_some_append (values : List (Element F)) {added : List (Element F)}
    {position : Nat} (hposition : position < added.length) :
    added[position]? = some (assignment (values ++ added) (values.length + position)) := by
  rw [assignment_append_right, List.getD_eq_getElem _ _ hposition,
    List.getElem?_eq_getElem hposition]

/-- Continuations of a list of the same length that stand for the same values are the same. -/
theorem append_inj_of_agree (values : List (Element F)) {added other : List (Element F)}
    (hlength : added.length = other.length)
    (hagree : ∀ index, values.length ≤ index → index < values.length + added.length →
      assignment (values ++ added) index = assignment (values ++ other) index) :
    added = other := by
  rw [← map_assignment_append values added, ← map_assignment_append values other, ← hlength,
    List.map_inj_left]
  intro index hindex
  obtain ⟨hle, hlt⟩ := List.mem_range'_1.mp hindex
  exact hagree index hle hlt

theorem assignment_set {values : List (Element F)} {position : Nat} (value : Element F)
    (hposition : position < values.length) (index : Nat) :
    assignment (values.set position value) index =
      if index = position then value else assignment values index := by
  rw [assignment, assignment, List.getD_eq_getElem?_getD, List.getD_eq_getElem?_getD]
  by_cases hindex : index = position
  · rw [if_pos hindex, hindex, List.getElem?_set_self hposition, Option.getD_some]
  · rw [if_neg hindex, List.getElem?_set_ne (Ne.symm hindex)]

end Plonkish
