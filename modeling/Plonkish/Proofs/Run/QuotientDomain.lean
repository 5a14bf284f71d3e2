import Plonkish.Proofs.Config.QuotientDomain
import Plonkish.Proofs.Run.Representation
import Plonkish.Proofs.System.Snapshot

/-!
# Padded systems have a shape

A shape needs a quotient domain, which there is not for every number of rows.  Operations
leave the factors of the domain alone, and padding brings the rows to a power of two, so a
padded system has a shape wherever the powers of two have a size.
-/

namespace Plonkish

variable {F : BaseField}

/-! ### Operations keep the configuration -/

namespace System

@[simp]
theorem quotient_grow (system : System F) (values : List (Element F)) (rows : List (Row F)) :
    (system.grow values rows).quotient = system.quotient := rfl

@[simp]
theorem quotient_define (system : System F) (formula : Formula F) :
    (system.define formula).quotient = system.quotient := rfl

@[simp]
theorem quotient_remember (system : System F) (index : Nat) (constant : Reserved) :
    (system.remember index constant).quotient = system.quotient := by
  cases constant <;> rfl

@[simp]
theorem quotient_reserve (system : System F) (constant : Reserved) :
    (system.reserve constant).quotient = system.quotient := by
  cases hreserved : system.reserved? constant with
  | none => rw [reserve_of_none hreserved, quotient_remember, quotient_grow]
  | some index => rw [reserve_of_some hreserved]

@[simp]
theorem quotient_inhabited (system : System F) :
    system.inhabited.quotient = system.quotient := by
  by_cases hnumVars : system.numVars = 0
  · rw [inhabited_of_eq_zero hnumVars, quotient_reserve]
  · rw [inhabited_of_ne_zero hnumVars]

end System

theorem Change.quotient_apply (system : System F) (change : Change F) :
    (change.apply system).quotient = system.quotient := by
  cases change with
  | keep | inputs | row | publicInput | takeWitness | formula | digits => rfl
  | reserve constant => exact system.quotient_reserve constant
  | pad => exact system.quotient_inhabited
  | equation left right => simp [apply, System.equate]
  | flags left right => simp [apply, System.addFlags, System.compare, System.invertDifference]

namespace System

namespace WellFormed

variable {system : System F}

theorem quotient_run (hsystem : system.WellFormed) (operation : Operation) :
    (operation.run system).2.quotient = system.quotient := by
  rcases Operation.run_cases hsystem operation with ⟨refusal, hrun⟩ | ⟨plan, haccepted, hrun⟩
  · rw [hrun]
  · rw [hrun]
    exact plan.change.quotient_apply system

theorem quotient_after (hsystem : system.WellFormed) (operations : List Operation) :
    (system.after operations).quotient = system.quotient := by
  induction operations generalizing system with
  | nil => rfl
  | cons operation operations ih =>
      rw [after_cons, ih (hsystem.run operation), hsystem.quotient_run]

end WellFormed

end System

/-! ### Shapes -/

/-- Columns that fit together have a shape as soon as there is a quotient domain. -/
theorem ConstraintMatrix.WellShaped.exists_shape {matrix : ConstraintMatrix F}
    {selectors : List (List (Element F))} (hmatrix : matrix.WellShaped selectors)
    (hbound : matrix.numVars ≤ matrix.indexBound) {size : Int}
    (hdomain : matrix.quotientDomain = .ok size) :
    ∃ shape, matrix.shape = .ok shape ∧ shape.size = matrix.size ∧
      shape.quotientDomain = size := by
  have hdeclared : matrix.hasDeclaredSize := by
    have hhead := hmatrix.length_head
    rw [hasDeclaredSize]
    cases hwiring : matrix.wiring with
    | nil =>
        have hcount := hmatrix.length_wiring
        rw [hwiring] at hcount
        cases hcount
    | cons column columns =>
        rw [hwiring] at hhead
        simp [show (column.length : Int) = matrix.size from hhead]
  refine ⟨⟨matrix.size, matrix.numVars, matrix.wiring.length, matrix.selectors.length,
    Gate.maxDegree, size, matrix.wiring, selectors.map (·.map Element.val), matrix.bindingRows,
    matrix.bindingVars⟩, ?_, rfl, rfl⟩
  exact shape_eq_ok_iff.mpr ⟨hdomain, checkWiring_eq_ok hmatrix hbound, hdeclared, selectors,
    hmatrix.selectorColumns_eq, rfl⟩

namespace System

theorem WellFormed.exists_shape {system : System F} (hsystem : system.WellFormed) {size : Int}
    (hdomain : system.quotientDomain = .ok size) :
    ∃ shape, system.matrix.shape = .ok shape ∧ shape.size = system.size ∧
      shape.quotientDomain = size :=
  hsystem.wellShaped.exists_shape (le_max_right _ _) hdomain

/-- Four rows make a small circuit and small circuits have a factor of at least thirteen:
then every padded system that can be reached has a quotient domain. -/
theorem exists_quotientDomain_of_padded {domain : QuotientDomain}
    (hthreshold : 4 ≤ domain.threshold) (hsmall : 13 ≤ domain.smallBlowup)
    {operations : List Operation}
    (hphase : ((empty F domain).after operations).phase = .padded) :
    ∃ size, ((empty F domain).after operations).quotientDomain = .ok size := by
  obtain ⟨exponent, hsize⟩ :=
    ((consistent_empty F domain).after operations).padded_size hphase
  rw [quotientDomain, (wellFormed_empty F domain).quotient_after operations, hsize]
  exact QuotientDomain.exists_size_of_two_pow hthreshold hsmall exponent

/-- Whatever integers a configuration is accepted with, the size of the quotient domain
exceeds the degree of the quotient whenever there is one, and there is one for eight rows
and more.  If four rows make a small circuit and small circuits have a factor of at least
thirteen, then every run that ends with a padded system, over either field, ends with one
that has a quotient domain and a shape. -/
theorem quotientDomain_large_enough {given : QuotientArguments}
    {blowup smallBlowup threshold : Int} (hblowup : given.blowup.toNumber = .ok blowup)
    (hsmallBlowup : given.smallBlowup.toNumber = .ok smallBlowup)
    (hthreshold : given.threshold.toNumber = .ok threshold) {domain : QuotientDomain}
    (haccepted : QuotientDomain.ofArguments given = .ok domain) :
    (∀ (rows : Value) (number size : Int), rows.toNumber = .ok number →
      domain.size rows = .ok size →
        size = (if number > threshold then number * blowup else number * smallBlowup) ∧
          5 * number + 7 < size) ∧
      (∀ (rows : Value) (number : Int), rows.toNumber = .ok number → 8 ≤ number →
        ∃ size, domain.size rows = .ok size) ∧
      (4 ≤ threshold → 13 ≤ smallBlowup →
        ∀ (F : BaseField) (operations : List Operation) (system : System F),
          (empty F domain).after operations = system → system.phase = .padded →
          ∃ size shape, system.quotientDomain = .ok size ∧ 5 * (system.size : Int) + 7 < size ∧
            system.matrix.shape = .ok shape ∧ shape.size = system.size ∧
            shape.quotientDomain = size) := by
  obtain ⟨hblowup', hsmallBlowup', hthreshold'⟩ := QuotientDomain.ofArguments_eq_ok_iff.mp haccepted
  obtain rfl : domain.blowup = blowup := Except.ok.inj (hblowup'.symm.trans hblowup)
  obtain rfl : domain.smallBlowup = smallBlowup :=
    Except.ok.inj (hsmallBlowup'.symm.trans hsmallBlowup)
  obtain rfl : domain.threshold = threshold := Except.ok.inj (hthreshold'.symm.trans hthreshold)
  refine ⟨?_, ?_, ?_⟩
  · intro rows number size hnumber hsize
    obtain ⟨_, hfound, rfl, hlt⟩ := QuotientDomain.size_eq_ok_iff.mp hsize
    cases hnumber.symm.trans hfound
    exact ⟨rfl, hlt⟩
  · intro rows number hnumber hmany
    exact ⟨_, QuotientDomain.size_eq_ok_iff.mpr
      ⟨number, hnumber, rfl, QuotientDomain.quotientDegree_lt_rawSize hmany⟩⟩
  · rintro hfour hthirteen F operations system rfl hphase
    obtain ⟨size, hsize⟩ := exists_quotientDomain_of_padded hfour hthirteen hphase
    obtain ⟨shape, hshape, hrows, hdomain⟩ :=
      ((wellFormed_empty F domain).after operations).exists_shape hsize
    obtain ⟨_, ⟨⟩, _, hlt⟩ := QuotientDomain.size_eq_ok_iff.mp hsize
    exact ⟨size, shape, hsize, hlt, hshape, hrows, hdomain⟩

/-- With the defaults eight rows have a domain of 48, and so have three rows one of 64 once
they are padded to four. -/
theorem quotientDomain_large_enough_default :
    let padded := (empty .goldilocks {}).after [.newVariable (.int 2), .newVariable (.int 3),
      .preparePublicInput (.int 0), .add (.int 0) (.int 1), .preparePublicInput (.int 2), .pad]
    ({} : QuotientArguments).blowup.toNumber = .ok 6 ∧
      ({} : QuotientArguments).smallBlowup.toNumber = .ok 16 ∧
      ({} : QuotientArguments).threshold.toNumber = .ok 4 ∧
      QuotientDomain.ofArguments {} = .ok {} ∧
      ({} : QuotientDomain).size (.int 8) = .ok 48 ∧
      padded.phase = .padded ∧
      ∃ shape, padded.matrix.shape = .ok shape ∧ shape.size = 4 ∧ shape.quotientDomain = 64 := by
  intro padded
  have haccepted : QuotientDomain.ofArguments {} = .ok {} := rfl
  have hphase : padded.phase = .padded := by decide +kernel
  have hsize : padded.quotientDomain = .ok 64 := by decide +kernel
  have hrows : padded.size = 4 := by decide +kernel
  obtain ⟨hexceeds, hlarge, hpadded⟩ := quotientDomain_large_enough rfl rfl rfl haccepted
  refine ⟨rfl, rfl, rfl, haccepted, ?_, hphase, ?_⟩
  · obtain ⟨size, hfound⟩ := hlarge (.int 8) 8 rfl (by decide)
    rw [hfound, (hexceeds (.int 8) 8 size rfl hfound).1]
    rfl
  · obtain ⟨size, shape, hfound, -, hshape, hcount, hdomain⟩ :=
      hpadded (by decide) (by decide) .goldilocks _ padded rfl hphase
    cases hsize.symm.trans hfound
    exact ⟨shape, hshape, hcount.trans (congrArg Int.ofNat hrows), hdomain⟩

end System

end Plonkish
