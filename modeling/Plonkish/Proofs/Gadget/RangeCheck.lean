import Plonkish.Gadget.RangeCheck
import Plonkish.Proofs.Field.Digits
import Plonkish.Proofs.Gadget.Formula

/-!
# Exactness of range checks

The rows of a range check hold exactly if the new variables are the binary digits of
a number that stands for the checked variable, followed by the accumulators of that
number.  So the ways to satisfy the rows are the numbers below the power of two in
the residue class of the checked variable, of which there are several once the power
exceeds the order of the field.
-/

namespace Plonkish

variable {F : BaseField}

open Element

/-- The rows that put digits together, the most significant first, below those of an
accumulator.  The variables from `fresh` on take the intermediate results. -/
def recomposeRows (checked accumulator fresh : Nat) : List Nat → List (Row F)
  | b3 :: b2 :: b1 :: b0 :: rest =>
    .linear accumulator b3 b2 b1 fresh (.ofNat F 8) (.ofNat F 4) (.ofNat F 2) 1 ::
      recomposeRows checked fresh (fresh + 1) (b0 :: rest)
  | [b2, b1, b0] =>
    [.linear accumulator b2 b1 b0 checked (.ofNat F 8) (.ofNat F 4) (.ofNat F 2) 1]
  | [b1, b0] => [.linear accumulator b1 b0 0 checked (.ofNat F 4) (.ofNat F 2) 1 0]
  | [b0] => [.linear accumulator b0 0 0 checked (.ofNat F 2) 1 0 0]
  | [] => []

def recomposeValues (accumulator : Element F) : List (Element F) → List (Element F)
  | b3 :: b2 :: b1 :: b0 :: rest =>
    let next := .ofNat F 8 * accumulator + .ofNat F 4 * b3 + .ofNat F 2 * b2 + 1 * b1
    next :: recomposeValues next (b0 :: rest)
  | _ => []

/-- The rows of a range check whose new variables start at `first`. -/
def digitRows (checked first count : Nat) : List (Row F) :=
  (List.range' first count).map .boolean ++
    match (List.range' first count).reverse with
    | top :: rest => recomposeRows checked top (first + count) rest
    | [] => []

/-- The values of the new variables of a range check if the digits write `number`. -/
def digitValues (F : BaseField) (number count : Nat) : List (Element F) :=
  digits F number count ++
    match (digits F number count).reverse with
    | top :: rest => recomposeValues top rest
    | [] => []

theorem length_recomposeValues (accumulator : Element F) (values : List (Element F)) :
    (recomposeValues accumulator values).length = (values.length - 1) / 3 := by
  fun_induction recomposeValues accumulator values with
  | case1 accumulator b3 b2 b1 b0 rest next ih =>
      simp only [List.length_cons, ih]
      omega
  | case2 values accumulator hshort =>
      match values, hshort with
      | [], _ | [_], _ | [_, _], _ | [_, _, _], _ => simp
      | _ :: _ :: _ :: _ :: _, hshort => exact absurd rfl (hshort _ _ _ _ _)

theorem length_digitValues (number count : Nat) :
    (digitValues F number count).length = count + (count - 2) / 3 := by
  rw [digitValues, List.length_append, length_digits]
  have hlength : (digits F number count).reverse.length = count := by
    rw [List.length_reverse, length_digits]
  split
  · next top rest heq =>
    rw [heq, List.length_cons] at hlength
    rw [length_recomposeValues]
    omega
  · next heq =>
    rw [heq, List.length_nil] at hlength
    rw [← hlength]
    rfl

/-! ### What the rows say -/

theorem horner_three (accumulator b3 b2 b1 : Element F) (values : List (Element F)) :
    horner accumulator (b3 :: b2 :: b1 :: values) =
      horner (.ofNat F 8 * accumulator + .ofNat F 4 * b3 + .ofNat F 2 * b2 + 1 * b1) values := by
  have hstep : 2 * (2 * (2 * accumulator + b3) + b2) + b1 =
      .ofNat F 8 * accumulator + .ofNat F 4 * b3 + .ofNat F 2 * b2 + 1 * b1 := by
    simp only [ofNat_eq_natCast, Nat.cast_ofNat]
    ring
  rw [horner, List.foldl_cons, List.foldl_cons, List.foldl_cons, hstep, horner]

/-- The intermediate results are pinned one after the other, and the last row says
that the digits write the checked variable. -/
theorem holds_recomposeRows (checked accumulator fresh : Nat) {indices : List Nat}
    (hindices : indices ≠ []) (assigned : Nat → Element F) :
    (∀ row ∈ recomposeRows checked accumulator fresh indices, row.Holds assigned) ↔
      (List.range' fresh ((indices.length - 1) / 3)).map assigned =
          recomposeValues (assigned accumulator) (indices.map assigned) ∧
        assigned checked = horner (assigned accumulator) (indices.map assigned) := by
  fun_induction recomposeRows (F := F) checked accumulator fresh indices with
  | case1 accumulator fresh b3 b2 b1 b0 rest ih =>
      have hcount : ((b3 :: b2 :: b1 :: b0 :: rest).length - 1) / 3 =
          ((b0 :: rest).length - 1) / 3 + 1 := by
        simp only [List.length_cons]
        omega
      rw [List.forall_mem_cons, Row.holds_linear, ih (List.cons_ne_nil _ _), hcount,
        List.range'_succ]
      simp only [List.map_cons, recomposeValues, horner_three, List.cons.injEq]
      rw [and_assoc]
      refine and_congr_right fun hfresh => ?_
      rw [hfresh]
  | case2 accumulator fresh b2 b1 b0 =>
      rw [List.forall_mem_singleton, Row.holds_linear, List.map_cons, List.map_cons, List.map_cons,
        horner_three]
      simp [recomposeValues, horner]
  | case3 accumulator fresh b1 b0 =>
      have hstep : 2 * (2 * assigned accumulator + assigned b1) + assigned b0 =
          .ofNat F 4 * assigned accumulator + .ofNat F 2 * assigned b1 + 1 * assigned b0 +
            0 * assigned 0 := by
        simp only [ofNat_eq_natCast, Nat.cast_ofNat]
        ring
      rw [List.forall_mem_singleton, Row.holds_linear, ← hstep]
      simp [recomposeValues, horner]
  | case4 accumulator fresh b0 =>
      have hstep : 2 * assigned accumulator + assigned b0 =
          .ofNat F 2 * assigned accumulator + 1 * assigned b0 + 0 * assigned 0 +
            0 * assigned 0 := by
        simp only [ofNat_eq_natCast, Nat.cast_ofNat]
        ring
      rw [List.forall_mem_singleton, Row.holds_linear, ← hstep]
      simp [recomposeValues, horner]
  | case5 => exact absurd rfl hindices

/-- The rows of a range check hold exactly if the new variables come from one number
below the power of two that stands for the checked variable. -/
theorem holds_digitRows (checked first : Nat) {count : Nat} (hcount : 2 ≤ count)
    (assigned : Nat → Element F) :
    (∀ row ∈ digitRows checked first count, row.Holds assigned) ↔
      ∃ number : Nat, number < 2 ^ count ∧ (number : Element F) = assigned checked ∧
        (List.range' first (count + (count - 2) / 3)).map assigned =
          digitValues F number count := by
  obtain ⟨top, rest, hreverse⟩ : ∃ top rest, (List.range' first count).reverse = top :: rest :=
    List.exists_cons_of_ne_nil (by simp; omega)
  have hrest : rest.length = count - 1 := by
    have hlength := congrArg List.length hreverse
    rw [List.length_reverse, List.length_range', List.length_cons] at hlength
    omega
  have hfolds : (rest.length - 1) / 3 = (count - 2) / 3 := by
    rw [hrest, Nat.sub_sub]
  have hne : rest ≠ [] := by
    rintro rfl
    rw [List.length_nil] at hrest
    omega
  have hdigits (number : Nat)
      (heq : (List.range' first count).map assigned = digits F number count) :
      (digits F number count).reverse = assigned top :: rest.map assigned := by
    rw [← heq, ← List.map_reverse, hreverse, List.map_cons]
  have hhorner (number : Nat)
      (heq : (List.range' first count).map assigned = digits F number count)
      (hlt : number < 2 ^ count) :
      horner (assigned top) (rest.map assigned) = (number : Element F) := by
    rw [← Nat.mod_eq_of_lt hlt, ← horner_reverse_digits, hdigits number heq, horner, horner,
      List.foldl_cons, mul_zero, zero_add]
  rw [digitRows, hreverse, List.forall_mem_append, holds_recomposeRows _ _ _ hne, hfolds,
    ← List.range'_append_1, List.map_append]
  constructor
  · rintro ⟨hboolean, haccumulators, hchecked⟩
    obtain ⟨number, hlt, heq⟩ : ∃ number < 2 ^ count,
        (List.range' first count).map assigned = digits F number count := by
      have hvalues : ∀ value ∈ (List.range' first count).map assigned, value = 0 ∨ value = 1 := by
        rw [List.forall_mem_map] at hboolean ⊢
        intro index hindex
        exact (Row.holds_boolean _ _).mp (hboolean index hindex)
      have hdigits := exists_eq_digits hvalues
      rwa [List.length_map, List.length_range'] at hdigits
    refine ⟨number, hlt, ?_, ?_⟩
    · rw [hchecked, hhorner number heq hlt]
    · rw [digitValues, hdigits number heq, heq, haccumulators]
  · rintro ⟨number, hlt, hchecked, hvalues⟩
    rw [digitValues] at hvalues
    obtain ⟨heq, haccumulators⟩ := List.append_inj hvalues (by simp)
    rw [hdigits number heq] at haccumulators
    refine ⟨?_, haccumulators, ?_⟩
    · intro row hrow
      obtain ⟨index, hindex, rfl⟩ := List.mem_map.mp hrow
      rw [Row.holds_boolean]
      exact eq_zero_or_one_of_mem_digits (heq ▸ List.mem_map_of_mem hindex)
    · rw [hhorner number heq hlt, hchecked]

theorem wires_recomposeRows_lt {checked accumulator fresh bound : Nat} {indices : List Nat}
    (hchecked : checked < bound) (haccumulator : accumulator < bound)
    (hindices : ∀ index ∈ indices, index < bound)
    (hfresh : fresh + (indices.length - 1) / 3 ≤ bound) :
    ∀ row ∈ recomposeRows (F := F) checked accumulator fresh indices,
      ∀ index ∈ row.wires.toList, index < bound := by
  fun_induction recomposeRows (F := F) checked accumulator fresh indices with
  | case1 accumulator fresh b3 b2 b1 b0 rest ih =>
      simp only [List.length_cons, List.forall_mem_cons] at hindices hfresh
      obtain ⟨h3, h2, h1, h0, hrest⟩ := hindices
      rw [List.forall_mem_cons]
      constructor
      · simp only [Row.linear, Wires.toList, List.forall_mem_cons]
        exact ⟨haccumulator, h3, h2, h1, by omega, List.forall_mem_nil _⟩
      · apply ih (by omega) (List.forall_mem_cons.mpr ⟨h0, hrest⟩)
        rw [List.length_cons]
        omega
  | case2 accumulator fresh b2 b1 b0 =>
      simp_all [Row.linear, Wires.toList]
  | case3 accumulator fresh b1 b0 =>
      simp_all [Row.linear, Wires.toList]
      omega
  | case4 accumulator fresh b0 =>
      simp_all [Row.linear, Wires.toList]
      omega
  | case5 => exact List.forall_mem_nil _

theorem wires_digitRows_lt {checked first count : Nat}
    (hchecked : checked < first + (count + (count - 2) / 3)) (hcount : 2 ≤ count) :
    ∀ row ∈ digitRows (F := F) checked first count, ∀ index ∈ row.wires.toList,
      index < first + (count + (count - 2) / 3) := by
  have hfirst : ∀ index ∈ List.range' first count, index < first + (count + (count - 2) / 3) := by
    intro index hindex
    have hlt := (List.mem_range'_1.mp hindex).2
    omega
  have hreverse : ∀ index ∈ (List.range' first count).reverse,
      index < first + (count + (count - 2) / 3) :=
    fun index hindex => hfirst index (List.mem_reverse.mp hindex)
  have hlength : (List.range' first count).reverse.length = count := by
    rw [List.length_reverse, List.length_range']
  rw [digitRows, List.forall_mem_append, List.forall_mem_map]
  constructor
  · intro index hindex
    have hlt := hfirst index hindex
    simp only [Row.boolean, Row.product, Wires.toList, List.forall_mem_cons]
    exact ⟨hlt, hlt, by omega, by omega, hlt, List.forall_mem_nil _⟩
  · split
    · next top rest heq =>
      rw [heq, List.length_cons] at hlength
      rw [heq, List.forall_mem_cons] at hreverse
      exact wires_recomposeRows_lt hchecked hreverse.1 hreverse.2 (by omega)
    · exact List.forall_mem_nil _

namespace System

def addDigits (system : System F) (checked count : Nat) : System F :=
  system.grow (digitValues F (system.stored checked).val count)
    (digitRows checked system.numVars count)

namespace WellFormed

variable {system : System F} {checked count : Nat}

theorem addDigits (hsystem : system.WellFormed) (hchecked : checked < system.numVars)
    (hcount : 2 ≤ count) : (system.addDigits checked count).WellFormed := by
  apply hsystem.grow
  rw [length_digitValues]
  exact wires_digitRows_lt (Nat.lt_add_right _ hchecked) hcount

theorem satisfied_addDigits (hsystem : system.WellFormed) (hcount : 2 ≤ count)
    (assigned : Nat → Element F) :
    (system.addDigits checked count).Satisfied assigned ↔
      system.Satisfied assigned ∧
        ∃ number : Nat, number < 2 ^ count ∧ (number : Element F) = assigned checked ∧
          (List.range' system.numVars (count + (count - 2) / 3)).map assigned =
            digitValues F number count := by
  rw [System.addDigits, hsystem.satisfied_grow, holds_digitRows _ _ hcount]

theorem map_stored_addDigits (hsystem : system.WellFormed) (hphase : system.phase ≠ .proving) :
    (List.range' system.numVars (count + (count - 2) / 3)).map
        (system.addDigits checked count).stored =
      digitValues F (system.stored checked).val count := by
  rw [← length_digitValues (F := F) (system.stored checked).val]
  exact map_stored_grow (hsystem.length_witness hphase) _ _

/-- The values that are stored for the digits satisfy their rows exactly if the
checked value is in range. -/
theorem honest_addDigits (hsystem : system.WellFormed) (hphase : system.phase ≠ .proving)
    (hchecked : checked < system.numVars) (hcount : 2 ≤ count) :
    (system.addDigits checked count).Honest ↔
      system.Honest ∧ (system.stored checked).val < 2 ^ count := by
  have hextends : system.Extends (system.addDigits checked count) :=
    extends_grow (hsystem.length_witness hphase) _ _
  rw [Honest, hsystem.satisfied_addDigits hcount, hsystem.satisfied_congr hextends.stored_eq,
    hextends.stored_eq checked hchecked, hsystem.map_stored_addDigits hphase, Honest]
  refine and_congr_right fun _ => ?_
  constructor
  · rintro ⟨number, hlt, hnumber, hvalues⟩
    -- the digits are those of the number and of the residue, of which neither is larger
    have hdigits := (List.append_inj hvalues (by simp)).1
    rw [digits_eq_iff, Nat.mod_eq_of_lt hlt] at hdigits
    rw [natCast_eq_iff] at hnumber
    have hle := Nat.mod_le (system.stored checked).val (2 ^ count)
    have hmodulus := (system.stored checked).isLt
    rw [Nat.mod_eq_of_lt (by omega)] at hnumber
    omega
  · intro hlt
    exact ⟨_, hlt, natCast_val _, rfl⟩

end WellFormed

end System

namespace Emit

theorem run_forM_boolean (digits : List (Variable F)) (system : System F) :
    (digits.forM fun digit => do
      let _ ← addRow (.boolean digit.index) : Emit F Unit).run system =
        ((), system.grow [] (digits.map fun digit => .boolean digit.index)) := by
  induction digits generalizing system with
  | nil =>
      rw [List.map_nil, System.grow_nil]
      rfl
  | cons digit digits ih =>
      have hfirst : (do let _ ← addRow (.boolean digit.index) : Emit F Unit).run system =
          ((), system.grow [] [.boolean digit.index]) :=
        run_bind_of (run_addRow _ _)
      refine (run_bind_of hfirst).trans ?_
      rw [ih, System.grow_grow]
      rfl

theorem run_recompose (checked : Nat) (accumulator : Variable F) (digits : List (Variable F))
    (system : System F) :
    (recompose checked accumulator digits).run system =
      ((), system.grow (recomposeValues accumulator.value (digits.map (·.value)))
        (recomposeRows checked accumulator.index system.numVars (digits.map (·.index)))) := by
  fun_induction recompose checked accumulator digits generalizing system with
  | case1 accumulator b3 b2 b1 b0 rest ih =>
      have hnext := run_addDefined (.ofNat F 8 * accumulator.value + .ofNat F 4 * b3.value +
        .ofNat F 2 * b2.value + 1 * b1.value) (fun output => .linear accumulator.index b3.index
        b2.index b1.index output (.ofNat F 8) (.ofNat F 4) (.ofNat F 2) 1) system
      refine (run_bind_of hnext).trans ?_
      rw [ih, System.grow_grow]
      rfl
  | case2 | case3 | case4 => exact run_bind_of (run_addRow _ _)
  | case5 => exact congrArg (Prod.mk ()) system.grow_nil.symm

/-- The whole range check is one growth. -/
theorem run_binaryDigits {system : System F} (checked count : Nat) :
    (binaryDigits checked (digits F (system.stored checked).val count)).run system =
      ((List.range' system.numVars count).map BoolVar.mk, system.addDigits checked count) := by
  rw [binaryDigits, run_bind_of (run_addVariables _ _), run_bind_of (run_forM_boolean _ _),
    System.grow_grow, List.append_nil, List.nil_append]
  generalize hadded : addedVariables system.numVars
    (digits F (system.stored checked).val count) = added
  have hindices : added.map (·.index) = List.range' system.numVars count := by
    rw [← hadded, map_index_addedVariables, length_digits]
  have hvalues : added.map (·.value) = digits F (system.stored checked).val count := by
    rw [← hadded, map_value_addedVariables]
  have hrows : added.map (fun digit => .boolean digit.index) =
      (List.range' system.numVars count).map (Row.boolean (F := F)) := by
    rw [← hindices, List.map_map]
    rfl
  have hresult : added.map (fun digit => BoolVar.mk digit.index) =
      (List.range' system.numVars count).map BoolVar.mk := by
    rw [← hindices, List.map_map]
    rfl
  have hcount : (added.map (·.value)).length = count := by
    rw [hvalues, length_digits]
  rw [System.addDigits, digitRows, digitValues, hrows, ← hresult, ← hindices, ← List.map_reverse,
    ← hvalues, ← List.map_reverse]
  cases hreverse : added.reverse with
  | nil =>
      simp only [List.map_nil, List.append_nil]
      rfl
  | cons top rest =>
      simp only [List.map_cons]
      rw [run_bind_of (run_recompose _ _ _ _), System.grow_grow, System.numVars_grow, hcount]
      rfl

end Emit

end Plonkish
