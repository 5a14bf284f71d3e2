import Mathlib.Algebra.Field.ZMod
import Mathlib.FieldTheory.Finite.Basic
import Mathlib.NumberTheory.LucasPrimality
import Mathlib.Tactic.NormNum.Prime
import Plonkish.Proofs.Field.Algebra

/-!
# The orders are prime

Both orders are prime by Lucas's test: the element 7 has multiplicative order
`F.modulus - 1`.  The powers that the test asks for are computed by the same
square and multiply that circuits use.  Since the orders are prime, the power that
serves as inverse is one, and the elements form a field.
-/

namespace Plonkish

namespace BaseField

/-- The order of the multiplicative group in prime factors, each with its exponent. -/
def groupFactors : BaseField → List (Nat × Nat)
  | bls12381 =>
    [(2, 32), (3, 1), (11, 1), (19, 1), (10177, 1), (125527, 1), (859267, 1), (906349, 2),
      (2508409, 1), (2529403, 1), (52437899, 1), (254760293, 2)]
  | goldilocks => [(2, 32), (3, 1), (5, 1), (17, 1), (257, 1), (65537, 1)]

theorem prod_groupFactors (F : BaseField) :
    (F.groupFactors.map fun factor => factor.1 ^ factor.2).prod = F.modulus - 1 := by
  cases F <;> decide +kernel

theorem prime_of_mem_groupFactors {F : BaseField} {factor : Nat × Nat}
    (hmem : factor ∈ F.groupFactors) : factor.1.Prime := by
  cases F <;> simp only [groupFactors, List.mem_cons, List.not_mem_nil, or_false] at hmem
  · rcases hmem with rfl | rfl | rfl | rfl | rfl | rfl | rfl | rfl | rfl | rfl | rfl | rfl <;>
      norm_num
  · rcases hmem with rfl | rfl | rfl | rfl | rfl | rfl <;> norm_num

theorem mem_groupFactors_of_dvd {F : BaseField} {prime : Nat} (hprime : prime.Prime)
    (hdvd : prime ∣ F.modulus - 1) : ∃ factor ∈ F.groupFactors, factor.1 = prime := by
  rw [← F.prod_groupFactors] at hdvd
  obtain ⟨power, hpower, hdvd⟩ := (Prime.dvd_prod_iff hprime.prime).mp hdvd
  obtain ⟨factor, hfactor, rfl⟩ := List.mem_map.mp hpower
  have heq : prime = factor.1 :=
    (Nat.prime_dvd_prime_iff_eq hprime (prime_of_mem_groupFactors hfactor)).mp
      (hprime.dvd_of_dvd_pow hdvd)
  exact ⟨factor, hfactor, heq.symm⟩

theorem pow_seven_eq_one (F : BaseField) : (Element.ofNat F 7).pow (F.modulus - 1) = 1 := by
  cases F <;> decide +kernel

theorem pow_seven_ne_one (F : BaseField) :
    ∀ factor ∈ F.groupFactors, (Element.ofNat F 7).pow ((F.modulus - 1) / factor.1) ≠ 1 := by
  cases F <;> decide +kernel

theorem prime_modulus (F : BaseField) : F.modulus.Prime := by
  have hpow (exponent : Nat) :
      (7 : ZMod F.modulus) ^ exponent = 1 ↔ (Element.ofNat F 7).pow exponent = 1 := by
    rw [← Element.toZMod_injective.eq_iff, Element.toZMod_pow, Element.toZMod_ofNat,
      Element.toZMod_one, Nat.cast_ofNat]
  apply lucas_primality F.modulus 7
  · exact (hpow _).mpr F.pow_seven_eq_one
  · intro prime hprime hdvd hone
    obtain ⟨factor, hfactor, rfl⟩ := mem_groupFactors_of_dvd hprime hdvd
    exact F.pow_seven_ne_one factor hfactor ((hpow _).mp hone)

instance (F : BaseField) : Fact F.modulus.Prime := ⟨F.prime_modulus⟩

end BaseField

namespace Element

variable {F : BaseField}

theorem toZMod_eq_zero_iff (value : Element F) : value.toZMod = 0 ↔ value = 0 := by
  rw [← toZMod_zero, toZMod_injective.eq_iff]

theorem mul_inverseOrZero {value : Element F} (hvalue : value ≠ 0) :
    value * value.inverseOrZero = 1 := by
  have hclass : value.toZMod ≠ 0 := mt (toZMod_eq_zero_iff value).mp hvalue
  have hpred : F.modulus - 2 + 1 = F.modulus - 1 := by
    have := F.one_lt_modulus
    omega
  apply toZMod_injective
  rw [toZMod_mul, inverseOrZero, toZMod_pow, toZMod_one, ← pow_succ', hpred,
    ZMod.pow_card_sub_one_eq_one hclass]

theorem inverseOrZero_zero : (0 : Element F).inverseOrZero = 0 := by
  have hexponent : F.modulus - 2 ≠ 0 := by cases F <;> decide
  rw [inverseOrZero, pow_eq, zero_pow hexponent]

/-- The elements form a field, with the inverse that circuits use. -/
instance : Field (Element F) where
  inv := inverseOrZero
  mul_inv_cancel _ := mul_inverseOrZero
  inv_zero := inverseOrZero_zero
  nnqsmul := _
  nnqsmul_def _ _ := rfl
  qsmul := _
  qsmul_def _ _ := rfl

end Element

end Plonkish
