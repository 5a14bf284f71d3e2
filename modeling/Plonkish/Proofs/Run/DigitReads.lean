import Plonkish.Proofs.Gadget.DigitReads
import Plonkish.Proofs.Run.RangeCheck

/-!
# Range checks read every digit once

The rows that a range check appends are those of its digits and, after them, those that take
the digits in.  The latter have each digit on one input wire, and together they say that the
checked variable is the number that the digits write.
-/

namespace Plonkish

variable {F : BaseField}

namespace Operation

/-- A range check reads its digits at positions that there are, each position once, and with
the accumulators unrolled the digit at a position has the power of two of that position.  It
appends a variable and a row for each digit, a variable and a row for each fold, and the last
row, which writes the checked variable.  If there are more digits than a list can have, it is
refused before it appends anything. -/
theorem rangeCheck_reads_each_digit_once {system : System F} (hphase : system.phase = .building)
    {index count : Value} {checked number : Nat} (hindex : system.Names index checked)
    (hcount : count.toNumber = .ok (number : Int)) (htwo : 2 ≤ number) :
    (lastCount number = 1 ∨ lastCount number = 2 ∨ lastCount number = 3) ∧
      (∀ position ∈ readPositions number, 0 ≤ position ∧ position < number) ∧
      (∀ position : Nat, position < number →
        (readPositions number).count (position : Int) = 1) ∧
      unrolledReads number = (List.range number).reverse.map placeValue ∧
      (CanExtend (number - (8 * F.byteLength : Nat)) → ∃ digits after,
        (rangeCheck index count).run system = (.ok (.boolVars digits), after) ∧
        digits.length = number ∧
        after.rows = system.rows ++ (digits.map (Row.boolean ·.index) ++
          readingRows digits number checked (system.numVars + number)) ∧
        after.numVars = system.numVars + (number + foldCount number) ∧
        after.size = system.size + (number + foldCount number + 1) ∧
        after.rows.getLast?.map (·.wires.wo) = some checked ∧
        (∀ digit ∈ digits,
          ((after.rows.drop (system.size + number)).flatMap Row.inputs).count digit.index = 1) ∧
        ∀ assigned : Nat → Element F,
          (∀ row ∈ after.rows.drop (system.size + number), row.Holds assigned) →
            assigned checked = ((List.range number).map fun position : Nat =>
              2 ^ position * assigned (digitAt digits position)).sum) ∧
      (¬ CanExtend (number - (8 * F.byteLength : Nat)) →
        (rangeCheck index count).run system =
          (.error (extensionRefusal (number - (8 * F.byteLength : Nat))), system)) := by
  refine ⟨lastCount_eq htwo, fun _ => readPositions_bounds htwo,
    fun _ => count_readPositions htwo, unrolledReads_eq htwo, fun hfits => ?_, fun hlarge => ?_⟩
  case refine_2 => rw [run_rangeCheck_of_names hphase hindex hcount htwo, if_neg hlarge]
  obtain ⟨digits, hdigits⟩ :
      ∃ digits, digits = (List.range' system.numVars number).map BoolVar.mk := ⟨_, rfl⟩
  refine ⟨digits, system.addDigits checked number, ?_, ?_,
    System.rows_addDigits htwo hdigits, system.numVars_addDigits checked number,
    System.size_addDigits htwo hdigits, System.output_getLast?_addDigits htwo hdigits, ?_, ?_⟩
  · rw [hdigits, run_rangeCheck_of_names hphase hindex hcount htwo, if_pos hfits]
  · rw [hdigits, List.length_map, List.length_range']
  · intro digit hdigit
    have hpos : 0 < system.numVars := Nat.zero_lt_of_lt hindex.2
    rw [System.drop_rows_addDigits htwo hdigits]
    exact count_inputs_readingRows htwo hpos hdigits checked hdigit
  · intro assigned hholds
    rw [System.drop_rows_addDigits htwo hdigits] at hholds
    exact checked_eq_sum htwo hholds

/-- Five digits take one fold, which reads three of them, and the last row reads the lowest. -/
theorem rangeCheck_reads_each_digit_once_five :
    ((System.empty .goldilocks {}).after [newVariable (.int 5)]).phase = .building ∧
      ((System.empty .goldilocks {}).after [newVariable (.int 5)]).Names (.int 0) 0 ∧
      (Value.int 5).toNumber = .ok ((5 : Nat) : Int) ∧ 2 ≤ 5 ∧
      intakes 5 = [⟨8, [(3, 4), (2, 2), (1, 1)]⟩, ⟨2, [(0, 1)]⟩] ∧
      unrolledReads 5 = [(4, 16), (3, 8), (2, 4), (1, 2), (0, 1)] ∧
      ∃ digits after, (rangeCheck (.int 0) (.int 5)).run
          ((System.empty .goldilocks {}).after [newVariable (.int 5)]) =
          (.ok (.boolVars digits), after) ∧
        after.numVars = 7 ∧ after.size = 7 ∧
        after.rows.getLast?.map (·.wires.wo) = some 0 ∧
        ∀ digit ∈ digits, ((after.rows.drop 5).flatMap Row.inputs).count digit.index = 1 := by
  have hindex : ((System.empty .goldilocks {}).after [newVariable (.int 5)]).Names (.int 0) 0 :=
    ⟨rfl, Nat.one_pos⟩
  have hcount : (Value.int 5).toNumber = .ok ((5 : Nat) : Int) := rfl
  have htwo : 2 ≤ 5 := by decide
  obtain ⟨-, -, -, hunrolled, hfits, -⟩ :=
    rangeCheck_reads_each_digit_once rfl hindex hcount htwo
  obtain ⟨digits, after, hrun, -, -, hnumVars, hsize, hlast, hinputs, -⟩ :=
    hfits (by decide +kernel)
  exact ⟨rfl, hindex, hcount, htwo, rfl, hunrolled, digits, after, hrun, hnumVars, hsize, hlast,
    hinputs⟩

/-- A number of digits that does not fit into a word is refused, and not one is added. -/
theorem rangeCheck_refused_adds_none :
    ∃ system : System .goldilocks,
      (System.empty .goldilocks {}).after [newVariable (.int 5)] = system ∧
      system.phase = .building ∧ system.Names (.int 0) 0 ∧
      (rangeCheck (.int 0) (.int (10 ^ 30))).run system =
        (.error (.input .indexTooLarge), system) ∧
      ((rangeCheck (.int 0) (.int (10 ^ 30))).run system).2.numVars ≠
        system.numVars + (10 ^ 30 + foldCount (10 ^ 30)) := by
  refine ⟨_, rfl, rfl, ⟨rfl, Nat.one_pos⟩, ?_, ?_⟩
  all_goals decide +kernel

end Operation

end Plonkish
