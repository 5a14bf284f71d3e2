import Mathlib.Data.Nat.Digits.Lemmas
import Plonkish.Proofs.Field.Digits

/-!
# The canonical encoding

The bytes of an element are the digits of its residue to the base 256, as many as the
modulus needs.  Numbers of equally many digits are the same only if their digits are, so
an element has one encoding and nothing else is read as this element.  The bits of the
encoding, continued by zeros or cut to a length, are the binary digits of the residue.
-/

namespace Plonkish

variable {F : BaseField}

/-! ### Bytes -/

/-- The number that bytes write to the base 256, the least significant first. -/
def littleEndian (bytes : List UInt8) : Nat :=
  Nat.ofDigits 256 (bytes.map UInt8.toNat)

theorem natOfBytes_eq_littleEndian (bytes : List UInt8) :
    natOfBytes bytes = littleEndian bytes := by
  induction bytes with
  | nil => rfl
  | cons byte bytes ih => rw [natOfBytes, ih]; rfl

/-- As many bytes as were written give the number back, up to what did not fit. -/
theorem littleEndian_bytesOfNat (width number : Nat) :
    littleEndian (bytesOfNat width number) = number % 256 ^ width := by
  induction width generalizing number with
  | zero => rw [pow_zero, Nat.mod_one]; rfl
  | succ width ih =>
      have hbyte : (UInt8.ofNat (number % 256)).toNat = number % 256 :=
        UInt8.toNat_ofNat_of_lt' (Nat.mod_lt _ (by decide))
      rw [bytesOfNat, littleEndian, List.map_cons, Nat.ofDigits_cons, ← littleEndian, ih, hbyte,
        pow_succ', Nat.mod_mul]

theorem eq_of_littleEndian_eq {left right : List UInt8} (hlength : left.length = right.length)
    (hnumber : littleEndian left = littleEndian right) : left = right := by
  have hlt : ∀ bytes : List UInt8, ∀ digit ∈ bytes.map UInt8.toNat, digit < 256 := by
    intro bytes digit hdigit
    obtain ⟨byte, _, rfl⟩ := List.mem_map.mp hdigit
    exact byte.toNat_lt
  have hdigits : left.map UInt8.toNat = right.map UInt8.toNat :=
    Nat.ofDigits_inj_of_len_eq (by decide) (by simpa using hlength) (hlt left) (hlt right) hnumber
  exact (List.map_inj_right fun _ _ => UInt8.toNat_inj.mp).mp hdigits

namespace Element

theorem val_lt_byte_pow (value : Element F) : value.val < 256 ^ F.byteLength := by
  calc value.val
      < 2 ^ (8 * F.byteLength) := value.val_lt_two_pow
    _ = 256 ^ F.byteLength := by rw [pow_mul]; rfl

@[simp]
theorem length_toBytes (value : Element F) : value.toBytes.length = F.byteLength := by
  rw [toBytes, length_bytesOfNat]

@[simp]
theorem littleEndian_toBytes (value : Element F) : littleEndian value.toBytes = value.val := by
  rw [toBytes, littleEndian_bytesOfNat, Nat.mod_eq_of_lt value.val_lt_byte_pow]

/-- Bytes are read as an element exactly if they are its encoding. -/
theorem ofBytes_eq_ok_iff {bytes : List UInt8} {value : Element F} :
    ofBytes F bytes = .ok value ↔ bytes = value.toBytes := by
  constructor
  · intro hread
    rw [ofBytes] at hread
    split at hread
    · cases hread
    · next hlength =>
      split at hread
      · cases hread
        apply eq_of_littleEndian_eq
        · rw [length_toBytes, not_not.mp hlength]
        · rw [littleEndian_toBytes]
          exact (natOfBytes_eq_littleEndian bytes).symm
      · cases hread
  · rintro rfl
    have hnumber : natOfBytes value.toBytes = value.val := by
      rw [natOfBytes_eq_littleEndian, littleEndian_toBytes]
    rw [ofBytes, if_neg (not_not.mpr value.length_toBytes), dif_pos (hnumber ▸ value.isLt)]
    exact congrArg Except.ok (Element.ext hnumber)

/-- Bytes are refused for their number or, if there are as many as there have to be, for a
number that is no residue. -/
theorem ofBytes_eq_error {bytes : List UInt8}
    (hbytes : ¬ (bytes.length = F.byteLength ∧ littleEndian bytes < F.modulus)) :
    ofBytes F bytes = .error (.parameter (if bytes.length = F.byteLength
      then .nonCanonicalEncoding else .byteCount F bytes.length)) := by
  rw [ofBytes]
  by_cases hlength : bytes.length = F.byteLength
  · have hlarge : ¬ natOfBytes bytes < F.modulus := by
      rw [natOfBytes_eq_littleEndian]
      exact fun hlt => hbytes ⟨hlength, hlt⟩
    rw [if_neg (not_not.mpr hlength), dif_neg hlarge, if_pos hlength]
  · rw [if_pos hlength, if_neg hlength]

theorem exists_toBytes_eq {bytes : List UInt8} (hlength : bytes.length = F.byteLength)
    (hcanonical : littleEndian bytes < F.modulus) : ∃ value : Element F, value.toBytes = bytes := by
  refine ⟨⟨littleEndian bytes, hcanonical⟩, eq_of_littleEndian_eq ?_ ?_⟩
  · rw [length_toBytes, hlength]
  · rw [littleEndian_toBytes]

/-- Every element has an encoding of as many bytes as the field needs, none of its digits is
lost, and it is read back.  Bytes are read exactly if they are as many and their number is
a residue; then they are the encoding of what they are read as, and of nothing else. -/
theorem encoding_bijective (F : BaseField) :
    (∀ value : Element F, value.val < 256 ^ F.byteLength ∧
      value.toBytes.length = F.byteLength ∧ littleEndian value.toBytes = value.val ∧
      ofBytes F value.toBytes = .ok value) ∧
    ∀ bytes : List UInt8,
      if bytes.length = F.byteLength ∧ littleEndian bytes < F.modulus then
        ∃! value, ofBytes F bytes = .ok value ∧ value.toBytes = bytes
      else
        (∀ value : Element F, value.toBytes ≠ bytes) ∧
          ofBytes F bytes = .error (.parameter (if bytes.length = F.byteLength
            then .nonCanonicalEncoding else .byteCount F bytes.length)) := by
  constructor
  · intro value
    exact ⟨value.val_lt_byte_pow, value.length_toBytes, value.littleEndian_toBytes,
      ofBytes_eq_ok_iff.mpr rfl⟩
  · intro bytes
    split
    · next hbytes =>
      obtain ⟨value, rfl⟩ := exists_toBytes_eq hbytes.1 hbytes.2
      refine ⟨value, ⟨ofBytes_eq_ok_iff.mpr rfl, rfl⟩, ?_⟩
      rintro other ⟨hother, _⟩
      rw [ofBytes_eq_ok_iff.mpr rfl] at hother
      exact (Except.ok.inj hother).symm
    · next hbytes =>
      refine ⟨?_, ofBytes_eq_error hbytes⟩
      rintro value rfl
      exact hbytes ⟨value.length_toBytes, value.littleEndian_toBytes ▸ value.isLt⟩

/-! ### Bits -/

/-- A negative number of digits drops them from the end of the encoding. -/
theorem bits_eq_digits_of_neg (value : Element F) {count : Int} (hcount : count < 0) :
    value.bits count = digits F value.val (8 * F.byteLength + count).toNat := by
  have hnone : count.toNat = 0 := by omega
  have hkept : 8 * F.byteLength - (-count).toNat = (8 * F.byteLength + count).toNat := by omega
  have hle : (8 * F.byteLength + count).toNat ≤ 8 * F.byteLength := by omega
  rw [bits, hnone, Nat.zero_sub, List.replicate_zero, List.append_nil, takeSigned,
    if_neg (by omega), length_encodingBits, hkept, encodingBits_eq, ← List.map_take,
    List.take_range, Nat.min_eq_left hle, List.map_map]
  rfl

/-- Digits are continued by zeros and cut where they are asked for in any number that is not
negative. -/
theorem bits_eq_digits_of_nonneg (value : Element F) {count : Int} (hcount : 0 ≤ count) :
    value.bits count = digits F value.val count.toNat := by
  rw [← bits_eq_digits, Int.toNat_of_nonneg hcount]

theorem getElem?_digits (number : Nat) {count position : Nat} (hposition : position < count) :
    (digits F number count)[position]? =
      some (if number.testBit position then 1 else 0) := by
  rw [digits, List.getElem?_map, List.getElem?_range hposition]
  rfl

theorem ofDigits_digits (number count : Nat) :
    Nat.ofDigits 2 ((digits F number count).map val) = number % 2 ^ count := by
  induction count generalizing number with
  | zero => rw [pow_zero, Nat.mod_one]; rfl
  | succ count ih =>
      have hdigit : number % 2 % F.modulus = number % 2 :=
        Nat.mod_eq_of_lt ((Nat.mod_lt _ Nat.two_pos).trans_le F.one_lt_modulus)
      rw [digits_succ, List.map_cons, Nat.ofDigits_cons, ih, val_natCast, hdigit, pow_succ',
        Nat.mod_mul]

theorem sum_mapIdx_digits (number count : Nat) :
    ((digits F number count).mapIdx fun position digit => digit.val * 2 ^ position).sum =
      number % 2 ^ count := by
  rw [← ofDigits_digits (F := F), Nat.ofDigits_eq_sum_mapIdx, List.mapIdx_eq_zipIdx_map,
    List.mapIdx_eq_zipIdx_map, List.zipIdx_map, List.map_map]
  rfl

/-- The digits that a caller asks for are the binary digits of the residue, as many as were
asked for, or all of the encoding but as many.  What is refused only depends on their number
less that of the bits of the encoding: whether it fits into a word, and whether so many zeros
fit into any memory. -/
theorem toBits_binary_expansion (value : Element F) (count : Int) :
    (CanExtend (count - (8 * F.byteLength : Nat)) → ∃ bits, value.toBits count = .ok bits ∧
      (0 ≤ count → (bits.length : Int) = count ∧
        (∀ position : Nat, (position : Int) < count →
          bits[position]? = some (if value.val.testBit position then 1 else 0)) ∧
        (bits.mapIdx fun position bit => bit.val * 2 ^ position).sum =
          value.val % 2 ^ count.toNat) ∧
      (count < 0 → bits = (List.range (8 * F.byteLength + count).toNat).map fun position =>
        if value.val.testBit position then 1 else 0)) ∧
    (FitsWord (count - (8 * F.byteLength : Nat)) →
      lengthBound ≤ count - (8 * F.byteLength : Nat) →
      value.toBits count = .error (.input (.outOfMemory (count - (8 * F.byteLength : Nat))))) ∧
    (¬ FitsWord (count - (8 * F.byteLength : Nat)) →
      value.toBits count = .error (.input .indexTooLarge)) := by
  refine ⟨fun hfits => ⟨value.bits count, ?_, fun hcount => ?_, fun hcount => ?_⟩,
    fun hword hlarge => ?_, fun hword => ?_⟩
  · rw [toBits_eq, if_pos hfits]
  · rw [bits_eq_digits_of_nonneg value hcount]
    refine ⟨?_, fun position hposition => ?_, sum_mapIdx_digits _ _⟩
    · rw [length_digits, Int.toNat_of_nonneg hcount]
    · exact getElem?_digits _ (by omega)
  · exact bits_eq_digits_of_neg value hcount
  · rw [toBits_eq, if_neg fun hfits => absurd hfits.2 (Int.not_lt.mpr hlarge), extensionRefusal,
      if_pos hword]
  · rw [toBits_eq, if_neg fun hfits => hword hfits.1, extensionRefusal, if_neg hword]

/-- The number 13 in six digits and in the four that are left of sixty-four, and two numbers of
digits that are refused, the lesser one for the memory. -/
theorem toBits_binary_expansion_thirteen :
    let thirteen : Element .goldilocks := .ofNat _ 13
    (∃ bits, thirteen.toBits 6 = .ok bits ∧ bits.length = 6 ∧ bits[3]? = some 1 ∧
        bits[4]? = some 0) ∧
      thirteen.toBits (-60) = .ok [1, 0, 1, 1] ∧
      thirteen.toBits (2 ^ 62) = .error (.input (.outOfMemory (2 ^ 62 - 64))) ∧
      thirteen.toBits (2 ^ 64) = .error (.input .indexTooLarge) := by
  intro thirteen
  obtain ⟨bits, hbits, hexpansion, _⟩ :=
    (toBits_binary_expansion thirteen 6).1 (by decide +kernel)
  obtain ⟨hlength, hdigit, _⟩ := hexpansion (by decide)
  obtain ⟨kept, hkept, _, hdropped⟩ :=
    (toBits_binary_expansion thirteen (-60)).1 (by decide +kernel)
  refine ⟨⟨bits, hbits, Int.ofNat.inj hlength, ?_, ?_⟩, ?_, ?_, ?_⟩
  · rw [hdigit 3 (by decide)]
    decide +kernel
  · rw [hdigit 4 (by decide)]
    decide +kernel
  · rw [hkept, hdropped (by decide)]
    decide +kernel
  · exact (toBits_binary_expansion thirteen (2 ^ 62)).2.1 (by decide +kernel) (by decide +kernel)
  · exact (toBits_binary_expansion thirteen (2 ^ 64)).2.2 (by decide +kernel)

/-- No digit is left of an encoding that is cut by far more than its length, yet the number
is refused. -/
theorem toBits_far_below_zero :
    (8 * BaseField.goldilocks.byteLength + (-2 ^ 63 : Int)).toNat = 0 ∧
      (-1 : Element .goldilocks).toBits (-2 ^ 63) = .error (.input .indexTooLarge) := by
  decide +kernel

end Element

end Plonkish
