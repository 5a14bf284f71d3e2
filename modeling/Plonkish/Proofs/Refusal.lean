import Mathlib.Logic.Basic
import Plonkish.Value

/-!
# Answers that may be refusals

Checks are written one after the other, and the first refusal ends them.  These
lemmas say when a sequence of checks is passed.
-/

namespace Plonkish

variable {E α β : Type}

@[simp]
theorem except_bind_ok (value : α) (next : α → Except E β) :
    (Except.ok value >>= next) = next value := rfl

@[simp]
theorem except_bind_error (refusal : E) (next : α → Except E β) :
    (Except.error refusal >>= next) = Except.error refusal := rfl

/-- A sequence of two steps succeeds exactly if both do. -/
theorem bind_eq_ok_iff {first : Except E α} {next : α → Except E β} {result : β} :
    (first >>= next) = .ok result ↔ ∃ value, first = .ok value ∧ next value = .ok result := by
  cases first with
  | error refusal => simp
  | ok value => simp

/-- A sequence of two steps is refused by the first or, once that succeeds, by the second. -/
theorem bind_eq_error_iff {first : Except E α} {next : α → Except E β} {refusal : E} :
    (first >>= next) = .error refusal ↔
      first = .error refusal ∨ ∃ value, first = .ok value ∧ next value = .error refusal := by
  cases first with
  | error found => simp
  | ok value => simp

theorem mapM_eq_ok_map {step : α → Except E β} {result : α → β} {entries : List α}
    (hstep : ∀ entry ∈ entries, step entry = .ok (result entry)) :
    entries.mapM step = .ok (entries.map result) := by
  induction entries with
  | nil => rfl
  | cons entry entries ih =>
      rw [List.mapM_cons, hstep entry List.mem_cons_self, except_bind_ok,
        ih fun other hother => hstep other (List.mem_cons_of_mem entry hother)]
      rfl

/-- What was written entry by entry is read back entry by entry. -/
theorem mapM_map_eq_ok {read : β → Except E α} {write : α → β}
    (hread : ∀ entry, read (write entry) = .ok entry) (entries : List α) :
    (entries.map write).mapM read = .ok entries := by
  have hentry : ∀ entry ∈ entries, (read ∘ write) entry = .ok (id entry) :=
    fun entry _ => hread entry
  rw [List.mapM_map, mapM_eq_ok_map hentry, List.map_id]

theorem length_of_mapM_eq_ok {step : α → Except E β} {entries : List α} {results : List β}
    (hresults : entries.mapM step = .ok results) : results.length = entries.length := by
  induction entries generalizing results with
  | nil =>
      cases hresults
      rfl
  | cons entry entries ih =>
      rw [List.mapM_cons, bind_eq_ok_iff] at hresults
      obtain ⟨first, _, hrest⟩ := hresults
      obtain ⟨rest, htail, hcons⟩ := bind_eq_ok_iff.mp hrest
      cases hcons
      rw [List.length_cons, List.length_cons, ih htail]

theorem mapM_take_eq_ok {step : α → Except E β} {entries : List α} {results : List β}
    (hresults : entries.mapM step = .ok results) (count : Nat) :
    (entries.take count).mapM step = .ok (results.take count) := by
  induction count generalizing entries results with
  | zero => rfl
  | succ count ih =>
      cases entries with
      | nil =>
          cases hresults
          rfl
      | cons entry entries =>
          rw [List.mapM_cons, bind_eq_ok_iff] at hresults
          obtain ⟨first, hfirst, hrest⟩ := hresults
          obtain ⟨rest, htail, hcons⟩ := bind_eq_ok_iff.mp hrest
          cases hcons
          rw [List.take_succ_cons, List.mapM_cons, hfirst, except_bind_ok, ih htail]
          rfl

theorem forM_eq_ok_iff {step : α → Except E Unit} {entries : List α} :
    entries.forM step = .ok () ↔ ∀ entry ∈ entries, step entry = .ok () := by
  induction entries with
  | nil => simp [pure, Except.pure]
  | cons entry entries ih =>
      rw [List.forall_mem_cons, ← ih]
      change (step entry >>= fun _ => entries.forM step) = .ok () ↔ _
      rw [bind_eq_ok_iff]
      constructor
      · rintro ⟨_, hfirst, hrest⟩
        exact ⟨hfirst, hrest⟩
      · rintro ⟨hfirst, hrest⟩
        exact ⟨(), hfirst, hrest⟩

theorem isBelow_of_toNumber {count : Value} {number : Int} (bound : Nat)
    (hcount : count.toNumber = .ok number) :
    count.isBelow bound = .ok (decide (number < bound)) := by
  cases count <;> cases hcount <;> rfl

theorem le_of_isBelow_eq_false {count : Value} {number : Int} {bound : Nat}
    (hcount : count.toNumber = .ok number) (hbelow : count.isBelow bound = .ok false) :
    bound ≤ number := by
  rw [isBelow_of_toNumber bound hcount, Except.ok.injEq, decide_eq_false_iff_not,
    Int.not_lt] at hbelow
  exact hbelow

namespace Value

/-- The elements of `F` in an argument that serves as a list. -/
def elements (F : BaseField) (given : Value) : Except CircuitError (List (Element F)) := do
  toColumn F (← given.entries)

def ofElements {F : BaseField} (values : List (Element F)) : Value :=
  list (values.map element)

theorem toColumn_map_element {F : BaseField} (values : List (Element F)) :
    toColumn F (values.map element) = .ok values :=
  mapM_map_eq_ok toElement_element values

@[simp]
theorem elements_ofElements {F : BaseField} (values : List (Element F)) :
    (ofElements values).elements F = .ok values := by
  rw [elements, ofElements, entries_list, except_bind_ok, toColumn_map_element]

end Value

end Plonkish
