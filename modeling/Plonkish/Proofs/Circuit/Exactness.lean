import Plonkish.Proofs.Circuit.ArithmeticRange
import Plonkish.Proofs.Run.HonestWitness
import Plonkish.Proofs.System.Padding

/-!
# The circuit with a bounded result is exact

A witness is accepted exactly if its values fit together as the circuit says, padded or
not.  The inputs are free, everything else follows from them but for the number that the
digits write, where there is a choice once the power of two exceeds the order of the field.
Even then no accepted witness can be turned into another by a change of one value.
-/

namespace Plonkish

variable {F : BaseField}

namespace ArithmeticRange

namespace Numbers

variable {numbers : Numbers F} {left right : Nat → Element F}

/-- Two of the inputs and their sum determine the third. -/
theorem Solved.inputs_eq (hleft : numbers.Solved numbers.found left)
    (hright : numbers.Solved numbers.found right) {index : Nat}
    (hagree : ∀ other, other ≠ index → left other = right other) :
    left 0 = right 0 ∧ left 1 = right 1 := by
  have hleftSum : left 2 = left 0 + left 1 := hleft.sum
  have hrightSum : right 2 = right 0 + right 1 := hright.sum
  by_cases ha : index = 0
  · subst ha
    have hb : left 1 = right 1 := hagree 1 (by decide)
    have hc : left 2 = right 2 := hagree 2 (by decide)
    rw [hleftSum, hrightSum, hb] at hc
    exact ⟨add_right_cancel hc, hb⟩
  by_cases hb : index = 1
  · subst hb
    have ha : left 0 = right 0 := hagree 0 (by decide)
    have hc : left 2 = right 2 := hagree 2 (by decide)
    rw [hleftSum, hrightSum, ha] at hc
    exact ⟨ha, add_left_cancel hc⟩
  · exact ⟨hagree 0 (Ne.symm ha), hagree 1 (Ne.symm hb)⟩

/-- The inputs determine all variables but the digits and the accumulators. -/
theorem Solved.arithmetic_eq (hleft : numbers.Solved numbers.found left)
    (hright : numbers.Solved numbers.found right) (ha : left 0 = right 0) (hb : left 1 = right 1) :
    ∀ index < 5, left index = right index := by
  have hc : left 2 = right 2 := by
    calc left 2 = left 0 + left 1 := hleft.sum
      _ = right 0 + right 1 := by rw [ha, hb]
      _ = right 2 := hright.sum.symm
  have hd : left 3 = right 3 := by
    calc left 3 = left 0 * left 1 := hleft.product
      _ = right 0 * right 1 := by rw [ha, hb]
      _ = right 3 := hright.product.symm
  have he : left 4 = right 4 := by
    calc left 4 = numbers.weigh (left 0) (left 1) (left 2) (left 3) := hleft.weighted
      _ = numbers.weigh (right 0) (right 1) (right 2) (right 3) := by rw [ha, hb, hc, hd]
      _ = right 4 := hright.weighted.symm
  intro index hindex
  match index with
  | 0 => exact ha
  | 1 => exact hb
  | 2 => exact hc
  | 3 => exact hd
  | 4 => exact he

theorem testBit_eq_of_agree {leftNumber rightNumber index : Nat}
    (hleftLt : leftNumber < 2 ^ numbers.bitCount) (hrightLt : rightNumber < 2 ^ numbers.bitCount)
    (hleft : (List.range' 5 numbers.bitCount).map left =
      Element.digits F leftNumber numbers.bitCount)
    (hright : (List.range' 5 numbers.bitCount).map right =
      Element.digits F rightNumber numbers.bitCount)
    (hagree : ∀ other, other ≠ index → left other = right other) (position : Nat)
    (hposition : position ≠ index - 5) :
    leftNumber.testBit position = rightNumber.testBit position := by
  by_cases hlt : position < numbers.bitCount
  · rw [List.range'_eq_map_range, List.map_map, Element.digits, List.map_inj_left] at hleft hright
    have hleftBit := hleft position (List.mem_range.mpr hlt)
    have hrightBit := hright position (List.mem_range.mpr hlt)
    apply Element.ofBit_injective (F := F)
    rw [← hleftBit, ← hrightBit]
    exact hagree (5 + position) (by omega)
  · have hle : 2 ^ numbers.bitCount ≤ 2 ^ position :=
      Nat.pow_le_pow_right Nat.two_pos (Nat.not_lt.mp hlt)
    rw [Nat.testBit_lt_two_pow (hleftLt.trans_le hle), Nat.testBit_lt_two_pow
      (hrightLt.trans_le hle)]

/-- Solutions that differ in one variable at most are the same. -/
theorem Solved.eq_of_agree (htwo : 2 ≤ numbers.bitCount)
    (hleft : numbers.Solved numbers.found left) (hright : numbers.Solved numbers.found right)
    {index : Nat} (hagree : ∀ other, other ≠ index → left other = right other) :
    ∀ other < 5 + (numbers.bitCount + (numbers.bitCount - 2) / 3), left other = right other := by
  obtain ⟨ha, hb⟩ := hleft.inputs_eq hright hagree
  have harithmetic := hleft.arithmetic_eq hright ha hb
  obtain ⟨leftNumber, hleftLt, hleftCast, hleftWritten⟩ := hleft.written
  obtain ⟨rightNumber, hrightLt, hrightCast, hrightWritten⟩ := hright.written
  have hcast : (leftNumber : Element F) = rightNumber :=
    (hleftCast.trans (harithmetic 4 (by decide))).trans hrightCast.symm
  have hbits := testBit_eq_of_agree hleftLt hrightLt
    ((numbers.map_found_digits left).symm.trans hleftWritten.1)
    ((numbers.map_found_digits right).symm.trans hrightWritten.1) hagree
  obtain rfl : leftNumber = rightNumber := Element.eq_of_testBit_eq_off hcast hbits
  have hleftValues := (numbers.map_assigned_eq_digitValues_iff htwo hleftLt left).mpr hleftWritten
  have hrightValues :=
    (numbers.map_assigned_eq_digitValues_iff htwo hleftLt right).mpr hrightWritten
  have hdigits := List.map_inj_left.mp (hleftValues.trans hrightValues.symm)
  intro other hother
  by_cases hlow : other < 5
  · exact harithmetic other hlow
  · exact hdigits other (List.mem_range'_1.mpr ⟨Nat.not_lt.mp hlow, hother⟩)

end Numbers

/-- The system as it was built, or padded. -/
def Numbers.Finished (numbers : Numbers F) (quotient : QuotientDomain) (final : System F) : Prop :=
  final = numbers.system quotient ∨ final = (numbers.system quotient).padded

namespace Numbers

variable {numbers : Numbers F} {quotient : QuotientDomain} {final : System F}

theorem numVars_ne_zero : (numbers.system quotient).numVars ≠ 0 := by
  rw [numVars_system]
  omega

/-- Padding changes nothing that verification depends on. -/
theorem Finished.same (htwo : 2 ≤ numbers.bitCount) (hfinal : numbers.Finished quotient final) :
    final.numVars = (numbers.system quotient).numVars ∧
      final.witness = (numbers.system quotient).witness ∧ final.phase ≠ .proving ∧
      ∀ given givenInputs, final.matrix.verify given givenInputs =
        (numbers.system quotient).matrix.verify given givenInputs := by
  rcases hfinal with rfl | rfl
  · exact ⟨rfl, rfl, nofun, fun _ _ => rfl⟩
  · refine ⟨?_, ?_, nofun, (numbers.wellFormed_system quotient htwo).verify_padded numVars_ne_zero⟩
    · rw [System.padded_of_ne_zero numVars_ne_zero]
      rfl
    · rw [System.padded_of_ne_zero numVars_ne_zero]
      exact List.append_nil _

theorem verify_iff_solved (htwo : 2 ≤ numbers.bitCount) (hfinal : numbers.Finished quotient final)
    {given : Value} {witness : List (Element F)} (hgiven : given.elements F = .ok witness) :
    final.matrix.verify given (.list []) = .ok () ↔
      witness.length = final.numVars ∧ numbers.Solved numbers.found (assignment witness) := by
  have hsystem := numbers.wellFormed_system quotient htwo
  have hnone : (Value.list []).elements F = .ok [] := rfl
  obtain ⟨hnumVars, _, _, hverify⟩ := hfinal.same htwo
  rw [hverify, System.verify_elements_iff hsystem hgiven hnone, hnumVars,
    ← numbers.satisfied_system quotient htwo]
  constructor
  · intro haccepts
    exact ⟨haccepts.length_eq, haccepts.satisfied⟩
  · rintro ⟨hlength, hsatisfied⟩
    exact ⟨hlength, hsatisfied, rfl⟩

theorem verify_taken_iff (htwo : 2 ≤ numbers.bitCount) (hfinal : numbers.Finished quotient final) :
    final.matrix.verify (.ofElements final.witness) (.list []) = .ok () ↔
      numbers.result.val < 2 ^ numbers.bitCount ∧
        (numbers.booleanA = true → numbers.a = 0 ∨ numbers.a = 1) := by
  obtain ⟨_, hwitness, _, hverify⟩ := hfinal.same htwo
  rw [hverify, hwitness, ← numbers.honest_system quotient htwo]
  exact System.verify_stored_iff (numbers.wellFormed_system quotient htwo) nofun

theorem eq_of_verify (htwo : 2 ≤ numbers.bitCount) (hfinal : numbers.Finished quotient final)
    {given givenOther : Value} {left right : List (Element F)}
    (hgiven : given.elements F = .ok left) (hgivenOther : givenOther.elements F = .ok right)
    (hleft : final.matrix.verify given (.list []) = .ok ())
    (hright : final.matrix.verify givenOther (.list []) = .ok ()) {index : Nat}
    (hagree : ∀ other, other ≠ index → left[other]? = right[other]?) : left = right := by
  obtain ⟨hleftLength, hleftSolved⟩ := (verify_iff_solved htwo hfinal hgiven).mp hleft
  obtain ⟨hrightLength, hrightSolved⟩ := (verify_iff_solved htwo hfinal hgivenOther).mp hright
  have hnumVars := (hfinal.same htwo).1
  rw [numVars_system] at hnumVars
  have hassigned : ∀ other, other ≠ index → assignment left other = assignment right other := by
    intro other hother
    rw [assignment, assignment, List.getD_eq_getElem?_getD, List.getD_eq_getElem?_getD,
      hagree other hother]
  have hsame := hleftSolved.eq_of_agree htwo hrightSolved hassigned
  apply append_inj_of_agree [] (hleftLength.trans hrightLength.symm)
  intro other _ hother
  rw [List.length_nil, Nat.zero_add, hleftLength, hnumVars] at hother
  exact hsame other hother

end Numbers

/-- For arguments of the right kinds the circuit is built, unless there are more digits than a
list can have, for which it is refused.  Of the witnesses with a value for every variable it
accepts, padded or not, exactly those whose values fit together.  The stored one is among them
exactly if the weighted sum is in range and, if that is asked for, the first input is 0 or 1.
No two accepted witnesses differ in one value only. -/
theorem accepts_exactly (circuit : ArithmeticRange) {numbers : Numbers F}
    (hnumbers : circuit.StandsFor numbers) (quotient : QuotientDomain) :
    (CanExtend (numbers.bitCount - (8 * F.byteLength : Nat)) → ∃ found system padded,
      circuit.build.run.run (System.empty F quotient) = (.ok found, system) ∧
      found = ⟨0, 1, 2, 3, 4, (List.range' 5 numbers.bitCount).map .mk⟩ ∧
      system.numVars = 5 + (numbers.bitCount + (numbers.bitCount - 2) / 3) ∧
      Operation.pad.run system = (.ok .done, padded) ∧
      ∀ final, final = system ∨ final = padded →
        (∀ given witness, given.elements F = .ok witness → witness.length = final.numVars →
          (final.matrix.verify given (.list []) = .ok () ↔
            numbers.Solved found (assignment witness))) ∧
        (∃ witness taken, Operation.takeWitness.run final = (.ok (.witness witness), taken) ∧
          (taken.matrix.verify (.ofElements witness) (.list []) = .ok () ↔
            numbers.result.val < 2 ^ numbers.bitCount ∧
              (numbers.booleanA = true → numbers.a = 0 ∨ numbers.a = 1))) ∧
        ∀ given givenOther left right,
          given.elements F = .ok left → givenOther.elements F = .ok right →
          final.matrix.verify given (.list []) = .ok () →
          final.matrix.verify givenOther (.list []) = .ok () →
          ∀ index : Nat, (∀ other, other ≠ index → left[other]? = right[other]?) →
            left = right) ∧
    (¬ CanExtend (numbers.bitCount - (8 * F.byteLength : Nat)) →
      (circuit.build.run.run (System.empty F quotient)).1 =
        .error (extensionRefusal (numbers.bitCount - (8 * F.byteLength : Nat)))) := by
  have htwo := hnumbers.two_le
  have hbuild := run_build hnumbers quotient
  refine ⟨fun hfits => ?_, fun hlarge => by rw [hbuild, if_neg hlarge]⟩
  rw [if_pos hfits] at hbuild
  refine ⟨numbers.found, numbers.system quotient, (numbers.system quotient).padded,
    hbuild, rfl, numbers.numVars_system quotient, ?_, ?_⟩
  · rw [Operation.run_pad, Operation.plan, if_neg (by rw [numbers.phase_system]; decide),
      if_neg fun hempty => Numbers.numVars_ne_zero hempty.1]
    rfl
  intro final hfinal
  have hfinished : numbers.Finished quotient final := hfinal
  refine ⟨?_, ?_, ?_⟩
  · intro given witness hgiven hlength
    exact (Numbers.verify_iff_solved htwo hfinished hgiven).trans (and_iff_right hlength)
  · refine ⟨final.witness, final.taken, ?_, Numbers.verify_taken_iff htwo hfinished⟩
    rw [Operation.run_takeWitness, Operation.plan, if_neg (hfinished.same htwo).2.2.1]
    rfl
  · intro given givenOther left right hgiven hgivenOther hleft hright index hagree
    exact Numbers.eq_of_verify htwo hfinished hgiven hgivenOther hleft hright hagree

/-- One, two and their weighted sum 13, which has four digits. -/
theorem accepts_exactly_thirteen :
    ∃ (circuit : ArithmeticRange) (numbers : Numbers .goldilocks),
      circuit.StandsFor numbers ∧ numbers.result = 13 ∧
      ∃ found system padded, circuit.build.run.run (System.empty .goldilocks {}) =
          (.ok found, system) ∧ found.e = 4 ∧
        Operation.pad.run system = (.ok .done, padded) ∧
        ∃ witness taken, Operation.takeWitness.run padded = (.ok (.witness witness), taken) ∧
          taken.matrix.verify (.ofElements witness) (.list []) = .ok () := by
  obtain ⟨circuit, hcircuit⟩ : ∃ circuit : ArithmeticRange, circuit =
      ⟨.int 1, .int 2, .list [.int 2, .int 3, .int 1, .int 1], .int 4, .bool true⟩ := ⟨_, rfl⟩
  obtain ⟨numbers, hvalues⟩ : ∃ numbers : Numbers .goldilocks, numbers =
      ⟨1, 2, 2, 3, 1, 1, 4, true⟩ := ⟨_, rfl⟩
  have hnumbers : circuit.StandsFor numbers := by
    subst hcircuit hvalues
    constructor <;> decide
  have hresult : numbers.result = 13 := by
    subst hvalues
    decide
  have hfits : CanExtend (numbers.bitCount - (8 * BaseField.goldilocks.byteLength : Nat)) := by
    subst hvalues
    decide +kernel
  obtain ⟨found, system, padded, hbuild, hfound, _, hpad, hfinal⟩ :=
    (accepts_exactly circuit hnumbers {}).1 hfits
  obtain ⟨_, ⟨witness, taken, htake, hverify⟩, _⟩ := hfinal padded (.inr rfl)
  refine ⟨circuit, numbers, hnumbers, hresult, found, system, padded, hbuild, ?_, hpad, witness,
    taken, htake, hverify.mpr ⟨?_, ?_⟩⟩
  · rw [hfound]
  · rw [hresult]
    subst hvalues
    decide
  · subst hvalues
    exact fun _ => .inr rfl

/-- With a number of digits that does not fit into a word there is no circuit. -/
theorem build_refused_digits :
    let circuit : ArithmeticRange :=
      { a := .int 1, b := .int 2, bitCount := .int (10 ^ 30) }
    circuit.StandsFor (⟨1, 2, 1, 1, 1, 1, 10 ^ 30, false⟩ : Numbers .goldilocks) ∧
      (circuit.build.run.run (System.empty .goldilocks {})).1 =
        .error (.input .indexTooLarge) := by
  constructor
  · constructor <;> decide +kernel
  · decide +kernel

end ArithmeticRange

end Plonkish
