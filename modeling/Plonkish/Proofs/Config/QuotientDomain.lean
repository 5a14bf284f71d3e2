import Mathlib.Algebra.Order.Ring.Int
import Plonkish.Config.Basic
import Plonkish.Proofs.Refusal

/-!
# Sizes of the quotient domain

A size is given exactly if it exceeds the degree of the quotient.  The general factor is at
least six, which is enough from eight rows on; below, it takes a larger factor for small
circuits, and thirteen is enough for one, two and four rows.  So no power of two is refused
where four rows count as small.
-/

namespace Plonkish

namespace QuotientDomain

/-- Arguments are accepted exactly as the numbers that they count as, if these numbers fit
together as those of a quotient domain do. -/
theorem ofArguments_eq_ok_iff {given : QuotientArguments} {domain : QuotientDomain} :
    ofArguments given = .ok domain ↔
      given.blowup.toNumber = .ok domain.blowup ∧
        given.smallBlowup.toNumber = .ok domain.smallBlowup ∧
        given.threshold.toNumber = .ok domain.threshold := by
  obtain ⟨general, small, limit, enough, ordered, nonneg⟩ := domain
  simp only [ofArguments, bind_eq_ok_iff]
  constructor
  · rintro ⟨blowup, hblowup, hrest⟩
    split at hrest
    · obtain ⟨smallBlowup, hsmall, hrest⟩ := bind_eq_ok_iff.mp hrest
      split at hrest
      · obtain ⟨threshold, hthreshold, hrest⟩ := bind_eq_ok_iff.mp hrest
        split at hrest
        · cases hrest
          exact ⟨hblowup, hsmall, hthreshold⟩
        · cases hrest
      · cases hrest
    · cases hrest
  · rintro ⟨hblowup, hsmall, hthreshold⟩
    refine ⟨general, hblowup, ?_⟩
    rw [dif_pos enough, hsmall, except_bind_ok, dif_pos ordered, hthreshold, except_bind_ok,
      dif_pos nonneg]
    rfl

variable {domain : QuotientDomain}

/-- A size is given exactly if it exceeds the degree of the quotient. -/
theorem size_eq_ok_iff {rows : Value} {size : Int} :
    domain.size rows = .ok size ↔
      ∃ number, rows.toNumber = .ok number ∧ domain.rawSize number = size ∧
        quotientDegree number < size := by
  rw [QuotientDomain.size, bind_eq_ok_iff]
  refine exists_congr fun number => and_congr_right fun _ => ?_
  by_cases hfew : domain.rawSize number ≤ quotientDegree number
  · rw [if_pos hfew]
    constructor
    · rintro ⟨⟩
    · rintro ⟨rfl, hlt⟩
      omega
  · rw [if_neg hfew]
    constructor
    · rintro ⟨⟩
      exact ⟨rfl, by omega⟩
    · rintro ⟨rfl, -⟩
      rfl

/-- From eight rows on every factor is large enough. -/
theorem quotientDegree_lt_rawSize {rows : Int} (hrows : 8 ≤ rows) :
    quotientDegree rows < domain.rawSize rows := by
  have hgeneral : rows * 6 ≤ rows * domain.blowup :=
    Int.mul_le_mul_of_nonneg_left domain.degree_lt_blowup (by omega)
  have hsmall : rows * domain.blowup ≤ rows * domain.smallBlowup :=
    Int.mul_le_mul_of_nonneg_left domain.blowup_le_smallBlowup (by omega)
  simp only [quotientDegree, rawSize, Gate.maxDegree]
  split <;> omega

/-- A factor of thirteen is large enough for any small circuit. -/
theorem quotientDegree_lt_rawSize_of_small {rows : Int} (hpos : 0 < rows)
    (hrows : rows ≤ domain.threshold) (hsmall : 13 ≤ domain.smallBlowup) :
    quotientDegree rows < domain.rawSize rows := by
  have hfactor : rows * 13 ≤ rows * domain.smallBlowup :=
    Int.mul_le_mul_of_nonneg_left hsmall (by omega)
  rw [quotientDegree, rawSize, if_neg (by omega)]
  simp only [Gate.maxDegree]
  omega

/-- Below eight the powers of two are one, two and four. -/
theorem le_four_or_eight_le_of_two_pow (exponent : Nat) :
    2 ^ exponent ≤ 4 ∨ 8 ≤ 2 ^ exponent := by
  rcases Nat.lt_or_ge exponent 3 with hlt | hge
  · exact .inl (Nat.pow_le_pow_right Nat.two_pos (Nat.le_of_lt_succ hlt))
  · exact .inr (Nat.pow_le_pow_right Nat.two_pos hge)

/-- The domain has a size for every power of two, if four rows make a small circuit and the
factor of small circuits is at least thirteen. -/
theorem exists_size_of_two_pow (hthreshold : 4 ≤ domain.threshold)
    (hsmall : 13 ≤ domain.smallBlowup) (exponent : Nat) :
    ∃ size, domain.size (.ofNat (2 ^ exponent)) = .ok size := by
  refine ⟨_, size_eq_ok_iff.mpr ⟨_, rfl, rfl, ?_⟩⟩
  have hpos : 0 < 2 ^ exponent := Nat.two_pow_pos exponent
  rcases le_four_or_eight_le_of_two_pow exponent with hfew | hmany
  · exact quotientDegree_lt_rawSize_of_small (by omega) (by omega) hsmall
  · exact quotientDegree_lt_rawSize (by omega)

-- six rows are too many for a small circuit and too few for the general factor
example : ({} : QuotientDomain).size (.int 6) =
    .error (.parameter (.domainTooSmall 36 "6" 37)) := by decide +kernel

end QuotientDomain

end Plonkish
