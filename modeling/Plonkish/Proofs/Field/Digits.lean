import Mathlib.Data.List.GetD
import Plonkish.Field.Encoding
import Plonkish.Proofs.Field.Primality

/-!
# Binary digits as elements

The bits that a circuit reads from the encoding of an element are the binary digits
of its residue, also where more digits are asked for than the encoding has bits.
Every list of zeros and ones is the list of digits of one number below the power of
two, and Horner's scheme puts the digits together again.
-/

namespace Plonkish

variable {F : BaseField}

/-- The refusal of a number of entries by which no list can be continued. -/
def extensionRefusal (added : Int) : CircuitError :=
  .input (if FitsWord added then .outOfMemory added else .indexTooLarge)

theorem checkExtension_eq (added : Int) :
    checkExtension added = if CanExtend added then .ok () else .error (extensionRefusal added) := by
  rw [checkExtension, extensionRefusal]
  by_cases hword : FitsWord added <;> by_cases hbound : added < lengthBound <;>
    simp [CanExtend, hword, hbound] <;> rfl

theorem checkExtension_eq_ok_iff {added : Int} {granted : Unit} :
    checkExtension added = .ok granted ↔ CanExtend added := by
  rw [checkExtension_eq]
  split <;> simp_all

namespace Element

theorem ofBit_injective : Function.Injective (ofBit F) := by
  intro left right heq
  cases left <;> cases right <;> simp_all [ofBit]

theorem ofBit_testBit_zero (number : Nat) :
    ofBit F (number.testBit 0) = ((number % 2 : Nat) : Element F) := by
  rcases Nat.mod_two_eq_zero_or_one number with hdigit | hdigit
  · rw [Nat.testBit_zero, hdigit, Nat.cast_zero]
    rfl
  · rw [Nat.testBit_zero, hdigit, Nat.cast_one]
    rfl

/-! ### The bits of the encoding -/

theorem bitsOfByte_ofNat (number : Nat) :
    bitsOfByte (UInt8.ofNat (number % 256)) = (List.range 8).map number.testBit := by
  apply List.map_congr_left
  intro position hposition
  have hlt : position < 8 := List.mem_range.mp hposition
  have hbyte : (UInt8.ofNat (number % 256)).toNat = number % 2 ^ 8 :=
    UInt8.toNat_ofNat_of_lt' (Nat.mod_lt _ (by decide))
  rw [hbyte, Nat.testBit_mod_two_pow, decide_eq_true hlt, Bool.true_and]

theorem flatMap_bitsOfByte (width number : Nat) :
    (bytesOfNat width number).flatMap bitsOfByte =
      (List.range (8 * width)).map number.testBit := by
  induction width generalizing number with
  | zero => rfl
  | succ width ih =>
      have hshift : ∀ position ∈ List.range (8 * width),
          (number / 256).testBit position = number.testBit (8 + position) := by
        intro position _
        rw [show 256 = 2 ^ 8 from rfl, Nat.testBit_div_two_pow, Nat.add_comm]
      rw [bytesOfNat, List.flatMap_cons, bitsOfByte_ofNat, ih, List.map_congr_left hshift,
        Nat.mul_succ, Nat.add_comm, List.range_add, List.map_append, List.map_map]
      rfl

theorem val_lt_two_pow (value : Element F) : value.val < 2 ^ (8 * F.byteLength) := by
  have hwidth : F.modulus.log2 + 1 ≤ 8 * F.byteLength := by
    rw [BaseField.byteLength]
    omega
  calc value.val
      < F.modulus := value.isLt
    _ < 2 ^ (F.modulus.log2 + 1) := Nat.lt_log2_self
    _ ≤ 2 ^ (8 * F.byteLength) := Nat.pow_le_pow_right Nat.two_pos hwidth

/-- The lowest binary digits of a number, least significant first. -/
def digits (F : BaseField) (number count : Nat) : List (Element F) :=
  (List.range count).map fun position => ofBit F (number.testBit position)

@[simp]
theorem length_digits (number count : Nat) : (digits F number count).length = count := by
  rw [digits, List.length_map, List.length_range]

theorem getD_digits (number : Nat) {count position : Nat} (hposition : position < count) :
    (digits F number count).getD position 0 = ofBit F (number.testBit position) := by
  rw [List.getD_eq_getElem _ _ (by rwa [length_digits])]
  simp only [digits, List.getElem_map, List.getElem_range]

theorem eq_zero_or_one_of_mem_digits {number count : Nat} {value : Element F}
    (hvalue : value ∈ digits F number count) : value = 0 ∨ value = 1 := by
  obtain ⟨position, _, rfl⟩ := List.mem_map.mp hvalue
  cases number.testBit position with
  | false => exact Or.inl rfl
  | true => exact Or.inr rfl

theorem encodingBits_eq (value : Element F) :
    value.encodingBits = (List.range (8 * F.byteLength)).map value.val.testBit := by
  rw [encodingBits, toBytes, flatMap_bitsOfByte]

@[simp]
theorem length_encodingBits (value : Element F) :
    value.encodingBits.length = 8 * F.byteLength := by
  rw [encodingBits_eq, List.length_map, List.length_range]

/-- The bits of an element are the digits of its residue, whatever their count. -/
theorem bits_eq_digits (value : Element F) (count : Nat) :
    value.bits (count : Int) = digits F value.val count := by
  apply List.ext_getElem
  · simp [bits, takeSigned]
    omega
  · intro position hleft hright
    rw [length_digits] at hright
    simp only [bits, takeSigned, Int.natCast_nonneg, if_true, Int.toNat_natCast, digits,
      List.getElem_map, List.getElem_take, List.getElem_range]
    congr 1
    by_cases hinside : position < 8 * F.byteLength
    · rw [List.getElem_append_left (by rwa [length_encodingBits])]
      simp only [encodingBits_eq, List.getElem_map, List.getElem_range]
    · have hclear : value.val.testBit position = false :=
        Nat.testBit_lt_two_pow (value.val_lt_two_pow.trans_le
          (Nat.pow_le_pow_right Nat.two_pos (Nat.le_of_not_lt hinside)))
      rw [List.getElem_append_right (by rw [length_encodingBits]; omega), List.getElem_replicate,
        hclear]

/-- Only the number of the bits is checked before they are given, not the element. -/
theorem toBits_eq_bind (value : Element F) (count : Int) :
    value.toBits count =
      checkExtension (count - (8 * F.byteLength : Nat)) >>= fun _ => pure (value.bits count) := by
  rw [toBits, length_encodingBits]

theorem toBits_eq (value : Element F) (count : Int) :
    value.toBits count = if CanExtend (count - (8 * F.byteLength : Nat)) then .ok (value.bits count)
      else .error (extensionRefusal (count - (8 * F.byteLength : Nat))) := by
  rw [toBits_eq_bind, checkExtension_eq]
  split <;> rfl

/-! ### Digits and numbers -/

theorem digits_succ (number count : Nat) :
    digits F number (count + 1) =
      ((number % 2 : Nat) : Element F) :: digits F (number / 2) count := by
  rw [digits, List.range_succ_eq_map, List.map_cons, List.map_map, ofBit_testBit_zero]
  simp only [digits, Function.comp_def, Nat.succ_eq_add_one, Nat.testBit_succ]

theorem digits_eq_iff (left right count : Nat) :
    digits F left count = digits F right count ↔ left % 2 ^ count = right % 2 ^ count := by
  constructor
  · intro heq
    apply Nat.eq_of_testBit_eq
    intro position
    rw [Nat.testBit_mod_two_pow, Nat.testBit_mod_two_pow]
    by_cases hposition : position < count
    · have hentry := congrArg (List.getD · position 0) heq
      simp only [getD_digits _ hposition] at hentry
      rw [ofBit_injective hentry]
    · rw [decide_eq_false hposition, Bool.false_and, Bool.false_and]
  · intro heq
    apply List.map_congr_left
    intro position hposition
    have hbit := congrArg (Nat.testBit · position) heq
    simp only [Nat.testBit_mod_two_pow, decide_eq_true (List.mem_range.mp hposition),
      Bool.true_and] at hbit
    rw [hbit]

theorem exists_eq_digits {values : List (Element F)}
    (hvalues : ∀ value ∈ values, value = 0 ∨ value = 1) :
    ∃ number < 2 ^ values.length, values = digits F number values.length := by
  induction values with
  | nil => exact ⟨0, Nat.one_pos, rfl⟩
  | cons value values ih =>
      obtain ⟨higher, hlt, hhigher⟩ := ih fun other hother =>
        hvalues other (List.mem_cons_of_mem value hother)
      have hdigit : ∃ digit < 2, value = ((digit : Nat) : Element F) := by
        rcases hvalues value List.mem_cons_self with rfl | rfl
        · exact ⟨0, Nat.two_pos, Nat.cast_zero.symm⟩
        · exact ⟨1, Nat.one_lt_two, Nat.cast_one.symm⟩
      obtain ⟨digit, hdigitLt, rfl⟩ := hdigit
      refine ⟨2 * higher + digit, ?_, ?_⟩
      · rw [List.length_cons, Nat.pow_succ]
        omega
      · have hlow : (2 * higher + digit) % 2 = digit := by omega
        have hhigh : (2 * higher + digit) / 2 = higher := by omega
        rw [List.length_cons, digits_succ, hlow, hhigh, ← hhigher]

/-- Horner's scheme: digits, the most significant first, below those of an accumulator. -/
def horner (accumulator : Element F) (values : List (Element F)) : Element F :=
  values.foldl (fun current value => 2 * current + value) accumulator

theorem horner_reverse_digits (number count : Nat) :
    horner 0 (digits F number count).reverse = ((number % 2 ^ count : Nat) : Element F) := by
  rw [horner, List.foldl_reverse]
  induction count generalizing number with
  | zero => rw [pow_zero, Nat.mod_one, Nat.cast_zero]; rfl
  | succ count ih =>
      have hsplit : number % 2 ^ (count + 1) = number % 2 + 2 * (number / 2 % 2 ^ count) := by
        rw [Nat.pow_succ', Nat.mod_mul]
      rw [digits_succ, List.foldr_cons, ih, hsplit, Nat.cast_add, Nat.cast_mul, Nat.cast_ofNat,
        add_comm]

end Element

end Plonkish
