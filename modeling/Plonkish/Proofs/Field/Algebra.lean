import Mathlib.Data.ZMod.Basic
import Plonkish.Field.Basic

/-!
# The ring of elements

Sums, products and powers of elements are computed on canonical residues.  Taking
a residue to its class modulo the order of the field is injective and respects
every operation, so the laws of a commutative ring carry over to the elements as
they are computed.
-/

namespace Plonkish

instance (F : BaseField) : NeZero F.modulus := ⟨F.modulus_pos.ne'⟩

namespace Element

variable {F : BaseField}

/-- The class of an element modulo the order of the field. -/
def toZMod (value : Element F) : ZMod F.modulus := (value.val : ZMod F.modulus)

theorem toZMod_injective : Function.Injective (toZMod : Element F → ZMod F.modulus) := by
  intro left right heq
  have hval : left.val % F.modulus = right.val % F.modulus :=
    (ZMod.natCast_eq_natCast_iff' left.val right.val F.modulus).mp heq
  rw [Nat.mod_eq_of_lt left.isLt, Nat.mod_eq_of_lt right.isLt] at hval
  exact Element.ext hval

theorem toZMod_ofNat (value : Nat) : (ofNat F value).toZMod = value := by
  rw [toZMod, val_ofNat, ZMod.natCast_mod]

theorem toZMod_ofInt (value : Int) : (ofInt F value).toZMod = value := by
  have hnonneg : 0 ≤ value % (F.modulus : Int) :=
    Int.emod_nonneg value (by exact_mod_cast F.modulus_pos.ne')
  calc (ofInt F value).toZMod
      = (((value % (F.modulus : Int)).toNat : Int) : ZMod F.modulus) := (Int.cast_natCast _).symm
    _ = ((value % (F.modulus : Int) : Int) : ZMod F.modulus) := by rw [Int.toNat_of_nonneg hnonneg]
    _ = value := ZMod.intCast_mod value F.modulus

theorem toZMod_zero : (0 : Element F).toZMod = 0 := by
  rw [toZMod, val_zero, Nat.cast_zero]

theorem toZMod_one : (1 : Element F).toZMod = 1 := by
  rw [toZMod, val_one, Nat.cast_one]

theorem toZMod_add (left right : Element F) :
    (left + right).toZMod = left.toZMod + right.toZMod := by
  rw [toZMod, val_add, ZMod.natCast_mod, Nat.cast_add, toZMod, toZMod]

theorem toZMod_mul (left right : Element F) :
    (left * right).toZMod = left.toZMod * right.toZMod := by
  rw [toZMod, val_mul, ZMod.natCast_mod, Nat.cast_mul, toZMod, toZMod]

theorem toZMod_neg (value : Element F) : (-value).toZMod = -value.toZMod := by
  have hneg : -value = ofNat F (F.modulus - value.val) := rfl
  rw [hneg, toZMod_ofNat, Nat.cast_sub value.isLt.le, ZMod.natCast_self, zero_sub, toZMod]

theorem ofInt_neg_one : ofInt F (-1) = -1 := by
  apply toZMod_injective
  rw [toZMod_ofInt, toZMod_neg, toZMod_one, Int.cast_neg, Int.cast_one]

theorem toZMod_sub (left right : Element F) :
    (left - right).toZMod = left.toZMod - right.toZMod := by
  have hsub : left - right = ofNat F (left.val + (F.modulus - right.val)) := rfl
  rw [hsub, toZMod_ofNat, Nat.cast_add, Nat.cast_sub right.isLt.le, ZMod.natCast_self, zero_sub,
    ← sub_eq_add_neg, toZMod, toZMod]

/-- Square and multiply along the lowest `digits` binary digits of an exponent
gives the power by the number that these digits write. -/
theorem toZMod_foldr_digits (base : Element F) (exponent digits offset : Nat) :
    ((List.range' offset digits).foldr
        (fun digit power =>
          if exponent.testBit digit then power * power * base else power * power) 1).toZMod =
      base.toZMod ^ (exponent / 2 ^ offset % 2 ^ digits) := by
  induction digits generalizing offset with
  | zero => rw [List.range'_zero, List.foldr_nil, toZMod_one, pow_zero, Nat.mod_one, pow_zero]
  | succ digits ih =>
      -- the digit at `offset` is the lowest one of the exponent, so it is taken in last
      have hsplit : exponent / 2 ^ offset % 2 ^ (digits + 1) =
          2 * (exponent / 2 ^ (offset + 1) % 2 ^ digits) + exponent / 2 ^ offset % 2 := by
        rw [Nat.pow_succ' (n := digits), Nat.mod_mul, Nat.div_div_eq_div_mul, ← Nat.pow_succ,
          Nat.add_comm]
      rw [List.range'_succ, List.foldr_cons, hsplit, pow_add, pow_mul', sq]
      by_cases hbit : exponent.testBit offset
      · have hdigit : exponent / 2 ^ offset % 2 = 1 := by
          simpa [Nat.testBit_eq_decide_div_mod_eq] using hbit
        rw [if_pos hbit, toZMod_mul, toZMod_mul, ih, hdigit, pow_one]
      · have hdigit : exponent / 2 ^ offset % 2 = 0 := by
          simpa [Nat.testBit_eq_decide_div_mod_eq] using hbit
        rw [if_neg hbit, toZMod_mul, ih, hdigit, pow_zero, mul_one]

theorem toZMod_pow (base : Element F) (exponent : Nat) :
    (base.pow exponent).toZMod = base.toZMod ^ exponent := by
  have hsize : exponent < 2 ^ (exponent.log2 + 1) := Nat.lt_log2_self
  rw [pow, List.range_eq_range', toZMod_foldr_digits, pow_zero, Nat.div_one,
    Nat.mod_eq_of_lt hsize]

instance : Pow (Element F) Nat := ⟨pow⟩

instance : NatCast (Element F) := ⟨ofNat F⟩

instance : IntCast (Element F) := ⟨ofInt F⟩

instance : SMul Nat (Element F) := ⟨fun count value => ofNat F count * value⟩

instance : SMul Int (Element F) := ⟨fun count value => ofInt F count * value⟩

/-- The elements with the operations of circuits form a commutative ring. -/
instance : CommRing (Element F) :=
  toZMod_injective.commRing toZMod toZMod_zero toZMod_one toZMod_add toZMod_mul toZMod_neg
    toZMod_sub
    (fun count value => by
      rw [nsmul_eq_mul, ← toZMod_ofNat]
      exact toZMod_mul (ofNat F count) value)
    (fun count value => by
      rw [zsmul_eq_mul, ← toZMod_ofInt]
      exact toZMod_mul (ofInt F count) value)
    toZMod_pow toZMod_ofNat toZMod_ofInt

theorem pow_eq (base : Element F) (exponent : Nat) : base.pow exponent = base ^ exponent := rfl

theorem ofNat_eq_natCast (value : Nat) : ofNat F value = (value : Element F) := rfl

@[simp]
theorem val_natCast (value : Nat) : (value : Element F).val = value % F.modulus := rfl

@[simp]
theorem natCast_val (value : Element F) : (value.val : Element F) = value :=
  Element.ext (Nat.mod_eq_of_lt value.isLt)

/-- Two numbers stand for one element exactly if they differ by a multiple of the
order of the field. -/
theorem natCast_eq_natCast_iff (left right : Nat) :
    (left : Element F) = right ↔ left % F.modulus = right % F.modulus := by
  rw [Element.ext_iff, val_natCast, val_natCast]

theorem natCast_eq_iff (number : Nat) (value : Element F) :
    (number : Element F) = value ↔ number % F.modulus = value.val := by
  rw [Element.ext_iff, val_natCast]

instance : Nontrivial (Element F) :=
  ⟨0, 1, fun h => by simpa using congrArg Element.val h⟩

end Element

end Plonkish
