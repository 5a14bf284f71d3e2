import Mathlib.Data.Nat.ModEq
import Mathlib.Data.Set.Function
import Plonkish.Proofs.Circuit.Steps
import Plonkish.Proofs.Run.Calls
import Plonkish.Proofs.System.Acceptance

/-!
# What a range check admits

Whatever the earlier variables are, the ways to extend them to the variables of a
range check are the numbers with so many binary digits in the residue class of the
checked variable.  There is one exactly if the residue is in range, and never more
than one exactly if the power of two does not exceed the order of the field.
-/

namespace Plonkish

variable {F : BaseField}

open Element

/-- The ways to extend an assignment of the variables before an operation to the
variables after it so that the rows it inserted hold. -/
def extensions (before after : System F) (values : List (Element F)) :
    Set (List (Element F)) :=
  {added | values.length + added.length = after.numVars ∧
    ∀ row ∈ after.rows.drop before.size, row.Holds (assignment (values ++ added))}

/-- The extensions are the digits and accumulators of the numbers in question. -/
theorem mem_extensions_addDigits_iff {system : System F} {checked count : Nat}
    (hchecked : checked < system.numVars) (hcount : 2 ≤ count) {values : List (Element F)}
    (hvalues : values.length = system.numVars) {added : List (Element F)} :
    added ∈ extensions system (system.addDigits checked count) values ↔
      ∃ number : Nat, number < 2 ^ count ∧ (number : Element F) = assignment values checked ∧
        added = digitValues F number count := by
  have hrows : (system.addDigits checked count).rows.drop system.size =
      digitRows checked system.numVars count := List.drop_left
  have hnumVars : (system.addDigits checked count).numVars =
      system.numVars + (count + (count - 2) / 3) := by
    rw [System.addDigits, System.numVars_grow, length_digitValues]
  rw [extensions, Set.mem_ofPred_eq, hrows, hnumVars, hvalues, Nat.add_left_cancel_iff,
    holds_digitRows _ _ hcount, assignment_append_left _ (hvalues ▸ hchecked), ← hvalues]
  constructor
  · rintro ⟨hlength, number, hlt, hnumber, hadded⟩
    rw [← hlength, map_assignment_append] at hadded
    exact ⟨number, hlt, hnumber, hadded⟩
  · rintro ⟨number, hlt, hnumber, rfl⟩
    refine ⟨length_digitValues number count, number, hlt, hnumber, ?_⟩
    rw [← length_digitValues (F := F) number count, map_assignment_append]

/-- Numbers in range are told apart by their digits. -/
theorem digitValues_injOn (F : BaseField) (count : Nat) :
    Set.InjOn (fun number => digitValues F number count) {number | number < 2 ^ count} := by
  intro left hleft right hright heq
  have hdigits := (List.append_inj heq (by simp)).1
  rwa [digits_eq_iff, Nat.mod_eq_of_lt hleft, Nat.mod_eq_of_lt hright] at hdigits

/-- The numbers with `count` binary digits that stand for an element. -/
def representatives (value : Element F) (count : Nat) : Set Nat :=
  {number | number < 2 ^ count ∧ number ≡ value.val [MOD F.modulus]}

theorem mem_representatives_iff {value : Element F} {count number : Nat} :
    number ∈ representatives value count ↔ number < 2 ^ count ∧ (number : Element F) = value := by
  rw [natCast_eq_iff, ← Nat.mod_eq_of_lt value.isLt]
  exact Iff.rfl

theorem representatives_nonempty_iff (value : Element F) (count : Nat) :
    (representatives value count).Nonempty ↔ value.val < 2 ^ count := by
  constructor
  · rintro ⟨number, hlt, hmod⟩
    rw [Nat.ModEq, Nat.mod_eq_of_lt value.isLt] at hmod
    rw [← hmod]
    exact (Nat.mod_le _ _).trans_lt hlt
  · intro hlt
    exact ⟨value.val, hlt, rfl⟩

theorem representatives_subsingleton {count : Nat} (hcount : 2 ^ count ≤ F.modulus)
    (value : Element F) : (representatives value count).Subsingleton := by
  rintro left ⟨hleft, hleftMod⟩ right ⟨hright, hrightMod⟩
  have hmod := hleftMod.trans hrightMod.symm
  rwa [Nat.ModEq, Nat.mod_eq_of_lt (hleft.trans_le hcount),
    Nat.mod_eq_of_lt (hright.trans_le hcount)] at hmod

theorem bijOn_extensions {system : System F} {checked count : Nat}
    (hchecked : checked < system.numVars) (hcount : 2 ≤ count) {values : List (Element F)}
    (hvalues : values.length = system.numVars) :
    Set.BijOn (fun number => digitValues F number count)
      (representatives (assignment values checked) count)
      (extensions system (system.addDigits checked count) values) := by
  refine ⟨?_, ?_, ?_⟩
  · intro number hnumber
    rw [mem_representatives_iff] at hnumber
    exact (mem_extensions_addDigits_iff hchecked hcount hvalues).mpr
      ⟨number, hnumber.1, hnumber.2, rfl⟩
  · exact (digitValues_injOn F count).mono fun number hnumber => hnumber.1
  · intro added hadded
    obtain ⟨number, hlt, hnumber, rfl⟩ :=
      (mem_extensions_addDigits_iff hchecked hcount hvalues).mp hadded
    exact ⟨number, mem_representatives_iff.mpr ⟨hlt, hnumber⟩, rfl⟩

/-- Zero and the order of the field stand for the same element, so a range check that
admits both leaves a choice. -/
theorem extensions_subsingleton_iff {system : System F} {checked count : Nat}
    (hchecked : checked < system.numVars) (hcount : 2 ≤ count) :
    (∀ values : List (Element F), values.length = system.numVars →
      (extensions system (system.addDigits checked count) values).Subsingleton) ↔
      2 ^ count ≤ F.modulus := by
  constructor
  · intro hunique
    by_contra hmodulus
    obtain ⟨zeros, hzeros⟩ : ∃ zeros, zeros = List.replicate system.numVars (0 : Element F) :=
      ⟨_, rfl⟩
    have hlength : zeros.length = system.numVars := by
      rw [hzeros, List.length_replicate]
    have hvalue : (assignment zeros checked).val = 0 := by
      rw [hzeros, assignment, List.getD_replicate _ hchecked, val_zero]
    have hbij := bijOn_extensions hchecked hcount hlength
    have hzero : 0 ∈ representatives (assignment zeros checked) count :=
      ⟨Nat.two_pow_pos count, by rw [hvalue]⟩
    have horder : F.modulus ∈ representatives (assignment zeros checked) count :=
      ⟨Nat.not_le.mp hmodulus, by rw [hvalue, Nat.ModEq, Nat.mod_self, Nat.zero_mod]⟩
    have heq := hbij.injOn hzero horder
      (hunique zeros hlength (hbij.mapsTo hzero) (hbij.mapsTo horder))
    exact F.modulus_pos.ne heq
  · intro hmodulus values hvalues
    rw [← (bijOn_extensions hchecked hcount hvalues).image_eq]
    exact (representatives_subsingleton hmodulus _).image _

/-- Beyond the width of the encoding more than one number stands for an element. -/
theorem not_subsingleton_representatives {count : Nat} (hcount : 8 * F.byteLength < count)
    (value : Element F) : ¬ (representatives value count).Subsingleton := by
  intro hunique
  have hmodulus : F.modulus - 1 < 2 ^ (8 * F.byteLength) :=
    val_lt_two_pow ⟨F.modulus - 1, Nat.sub_one_lt F.modulus_pos.ne'⟩
  have hwidth : 2 ^ (8 * F.byteLength + 1) ≤ 2 ^ count :=
    Nat.pow_le_pow_right Nat.two_pos hcount
  have hvalue := value.isLt
  rw [Nat.pow_succ'] at hwidth
  have hsmaller : value.val ∈ representatives value count := ⟨by omega, rfl⟩
  have hlarger : value.val + F.modulus ∈ representatives value count :=
    ⟨by omega, Nat.add_mod_right _ _⟩
  have heq := hunique hsmaller hlarger
  have hpos := F.modulus_pos
  omega

namespace Operation

theorem run_rangeCheck_of_names {system : System F} (hphase : system.phase = .building)
    {index count : Value} {checked bits : Nat} (hindex : system.Names index checked)
    (hcount : count.toNumber = .ok (bits : Int)) (htwo : 2 ≤ bits) :
    (rangeCheck index count).run system =
      if CanExtend (bits - (8 * F.byteLength : Nat)) then
        (.ok (.boolVars ((List.range' system.numVars bits).map .mk)),
          system.addDigits checked bits)
      else (.error (extensionRefusal (bits - (8 * F.byteLength : Nat))), system) := by
  have hrun := Builder.run_rangeCheck hphase hindex hcount htwo
  by_cases hfits : CanExtend (bits - (8 * F.byteLength : Nat))
  · rw [if_pos hfits] at hrun ⊢
    exact Checked.run_bind_ok hrun
  · rw [if_neg hfits] at hrun ⊢
    exact Checked.run_bind_error hrun

/-- A range check is exact, also where the power of two exceeds the order of the
field: the extensions of any values of the earlier variables correspond to the numbers
with `bits` binary digits that stand for the checked value, of which the digits that
the operation gives back are the digits.  If there are more digits than a list can have,
the range check is refused and leaves the system as it was. -/
theorem rangeCheck_exact {system : System F} (hphase : system.phase = .building)
    {index count : Value} {checked bits : Nat} (hindex : system.Names index checked)
    (hcount : count.toNumber = .ok (bits : Int)) (htwo : 2 ≤ bits) :
    (CanExtend (bits - (8 * F.byteLength : Nat)) → ∃ digits after,
      (rangeCheck index count).run system = (.ok (.boolVars digits), after) ∧
      digits.length = bits ∧
      (∀ values : List (Element F), values.length = system.numVars →
        (∃ extension : Nat → List (Element F),
          Set.BijOn extension (representatives (assignment values checked) bits)
            (extensions system after values) ∧
          ∀ number ∈ representatives (assignment values checked) bits,
            digits.map (fun digit => assignment (values ++ extension number) digit.index) =
              (List.range bits).map fun position => ofBit F (number.testBit position)) ∧
        ((extensions system after values).Nonempty ↔ (assignment values checked).val < 2 ^ bits)) ∧
      ((∀ values : List (Element F), values.length = system.numVars →
        (extensions system after values).Subsingleton) ↔ 2 ^ bits ≤ F.modulus)) ∧
    (¬ CanExtend (bits - (8 * F.byteLength : Nat)) →
      (rangeCheck index count).run system =
        (.error (extensionRefusal (bits - (8 * F.byteLength : Nat))), system)) := by
  have hrun := run_rangeCheck_of_names hphase hindex hcount htwo
  refine ⟨fun hfits => ?_, fun hlarge => by rw [hrun, if_neg hlarge]⟩
  rw [if_pos hfits] at hrun
  refine ⟨(List.range' system.numVars bits).map .mk, system.addDigits checked bits, hrun,
    ?_, ?_, ?_⟩
  · rw [List.length_map, List.length_range']
  · intro values hvalues
    have hbij := bijOn_extensions hindex.2 htwo hvalues
    refine ⟨⟨fun number => digitValues F number bits, hbij, ?_⟩, ?_⟩
    · intro number _
      have hall := map_assignment_append values (digitValues F number bits)
      rw [length_digitValues, ← List.range'_append_1, List.map_append] at hall
      rw [List.map_map, ← hvalues]
      exact (List.append_inj hall (by simp)).1
    · rw [← representatives_nonempty_iff, ← hbij.image_eq, Set.image_nonempty]
  · exact extensions_subsingleton_iff hindex.2 htwo

/-- With 64 digits the smaller field leaves a choice, although every value passes. -/
theorem rangeCheck_exact_wide :
    ((System.empty .goldilocks {}).after [newVariable (.int 5)]).phase = .building ∧
      ((System.empty .goldilocks {}).after [newVariable (.int 5)]).Names (.int 0) 0 ∧
      ∃ digits after, (rangeCheck (.int 0) (.int 64)).run
          ((System.empty .goldilocks {}).after [newVariable (.int 5)]) =
          (.ok (.boolVars digits), after) ∧
        digits.length = 64 ∧
        (∀ values : List (Element .goldilocks), values.length = 1 →
          (extensions ((System.empty .goldilocks {}).after [newVariable (.int 5)]) after
            values).Nonempty) ∧
        ¬ ∀ values : List (Element .goldilocks), values.length = 1 →
          (extensions ((System.empty .goldilocks {}).after [newVariable (.int 5)]) after
            values).Subsingleton := by
  have hindex : ((System.empty .goldilocks {}).after [newVariable (.int 5)]).Names (.int 0) 0 :=
    ⟨rfl, Nat.one_pos⟩
  have hcount : (Value.int 64).toNumber = .ok ((64 : Nat) : Int) := rfl
  obtain ⟨digits, after, hrun, hlength, hextensions, hunique⟩ :=
    (rangeCheck_exact rfl hindex hcount (by decide)).1 (by decide +kernel)
  refine ⟨rfl, hindex, digits, after, hrun, hlength, ?_, ?_⟩
  · intro values hvalues
    exact (hextensions values hvalues).2.mpr ((assignment values 0).isLt.trans (by decide))
  · intro hall
    exact absurd (hunique.mp hall) (by decide)

/-- So many digits are refused, and without variables for them there is only one extension,
while several numbers with so many digits stand for the value. -/
theorem rangeCheck_refused_wide :
    ∃ system : System .goldilocks,
      (System.empty .goldilocks {}).after [newVariable (.int 5)] = system ∧
      system.phase = .building ∧ system.Names (.int 0) 0 ∧
      (rangeCheck (.int 0) (.int (10 ^ 30))).run system =
        (.error (.input .indexTooLarge), system) ∧
      ∀ values : List (Element .goldilocks), values.length = system.numVars →
        ¬ ∃ extension : Nat → List (Element .goldilocks),
          Set.BijOn extension (representatives (assignment values 0) (10 ^ 30))
            (extensions system system values) := by
  refine ⟨_, rfl, rfl, ⟨rfl, Nat.one_pos⟩, by decide +kernel, ?_⟩
  rintro values hvalues ⟨extension, hbij⟩
  have hwide : 8 * BaseField.goldilocks.byteLength < 10 ^ 30 := by decide +kernel
  refine not_subsingleton_representatives hwide (assignment values 0) fun left hleft right hright =>
    hbij.injOn hleft hright ?_
  have hempty : ∀ added ∈ extensions ((System.empty .goldilocks {}).after [newVariable (.int 5)])
      ((System.empty .goldilocks {}).after [newVariable (.int 5)]) values, added = [] := by
    rintro added ⟨hlength, _⟩
    exact List.length_eq_zero_iff.mp (by omega)
  rw [hempty _ (hbij.mapsTo hleft), hempty _ (hbij.mapsTo hright)]

end Operation

end Plonkish
