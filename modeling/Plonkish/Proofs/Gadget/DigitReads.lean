import Mathlib.Algebra.BigOperators.Group.List.Basic
import Plonkish.Matrix.Basic
import Plonkish.Proofs.Gadget.RangeCheck

/-!
# The digits that a range check reads

A range check puts its digits together by their positions: it starts from the highest digit,
takes in three digits with every fold, and the last row takes in the one, two or three digits
that remain.  Here the positions and the weights are data.  No position is outside the list of
digits, every digit is read once, and if each accumulator is replaced by what it stands for,
the digit at position `i` has the weight `2 ^ i`.  The rows that are written down from this data
are those of a range check, so all this is true of their wires and of what they say.
-/

namespace Plonkish

variable {F : BaseField}

/-- What a row adds to an accumulator: the weight that the accumulator gets, and the positions
of the digits that are read with the weights that they get. -/
structure Intake where
  shift : Nat
  reads : List (Int × Nat)
  deriving DecidableEq

/-- The number of folds before the last row. -/
def foldCount (count : Nat) : Nat := (count - 2) / 3

/-- The number of digits that remain for the last row. -/
def lastCount (count : Nat) : Nat := count - 1 - 3 * foldCount count

/-- A fold takes in the three digits below the last one that was taken in. -/
def foldIntake (count fold : Nat) : Intake :=
  let high : Int := count - 1 - 3 * fold
  ⟨8, [(high - 1, 4), (high - 2, 2), (high - 3, 1)]⟩

def lastIntake (count : Nat) : Intake :=
  match lastCount count with
  | 1 => ⟨2, [(0, 1)]⟩
  | 2 => ⟨4, [(1, 2), (0, 1)]⟩
  | _ => ⟨8, [(2, 4), (1, 2), (0, 1)]⟩

/-- What the rows of a recomposition take in, after the highest digit. -/
def intakes (count : Nat) : List Intake :=
  (List.range (foldCount count)).map (foldIntake count) ++ [lastIntake count]

/-- The positions at which digits are read, in their order. -/
def readPositions (count : Nat) : List Int :=
  (count - 1) :: (intakes count).flatMap (·.reads.map Prod.fst)

/-- A position with a multiple of its weight. -/
def scaleRead (factor : Nat) (read : Int × Nat) : Int × Nat :=
  (read.1, factor * read.2)

/-- The reads that the accumulator after a row stands for, from those that the accumulator
before it stands for. -/
def Intake.unroll (reads : List (Int × Nat)) (intake : Intake) : List (Int × Nat) :=
  reads.map (scaleRead intake.shift) ++ intake.reads

/-- The positions that are read with their weights in the equation of the checked variable. -/
def unrolledReads (count : Nat) : List (Int × Nat) :=
  (intakes count).foldl Intake.unroll [(count - 1, 1)]

/-! ### Three digits at a time -/

theorem lastCount_eq {count : Nat} (htwo : 2 ≤ count) :
    lastCount count = 1 ∨ lastCount count = 2 ∨ lastCount count = 3 := by
  simp only [lastCount, foldCount]
  omega

theorem foldIntake_succ (count fold : Nat) :
    foldIntake (count + 3) (fold + 1) = foldIntake count fold := by
  have hhigh : ((count + 3 : Nat) : Int) - 1 - 3 * (fold + 1 : Nat) = count - 1 - 3 * fold := by
    omega
  rw [foldIntake, foldIntake, hhigh]

/-- Three digits more make one fold more, which comes first. -/
theorem intakes_add_three {count : Nat} (htwo : 2 ≤ count) :
    intakes (count + 3) =
      ⟨8, [((count + 1 : Nat), 4), ((count : Nat), 2), ((count - 1 : Nat), 1)]⟩ ::
        intakes count := by
  have hfolds : foldCount (count + 3) = foldCount count + 1 := by
    simp only [foldCount]
    omega
  have hlast : lastIntake (count + 3) = lastIntake count := by
    have hcount : lastCount (count + 3) = lastCount count := by
      simp only [lastCount, hfolds]
      omega
    rw [lastIntake, lastIntake, hcount]
  have hfirst : foldIntake (count + 3) 0 =
      ⟨8, [((count + 1 : Nat), 4), ((count : Nat), 2), ((count - 1 : Nat), 1)]⟩ := by
    simp only [foldIntake, Intake.mk.injEq, List.cons.injEq, Prod.mk.injEq, and_true, true_and]
    omega
  rw [intakes, hfolds, List.range_succ_eq_map, List.map_cons, List.map_map, hfirst, hlast,
    List.cons_append, intakes]
  simp only [Function.comp_def, Nat.succ_eq_add_one, foldIntake_succ]

/-- Two, three and four digits have a last row only, and each fold adds three digits. -/
@[elab_as_elim]
theorem digitCount_induction {motive : (count : Nat) → 2 ≤ count → Prop}
    (two : motive 2 (by decide)) (three : motive 3 (by decide)) (four : motive 4 (by decide))
    (fold : ∀ count htwo, motive count htwo → motive (count + 3) (Nat.le_add_right_of_le htwo)) :
    ∀ count htwo, motive count htwo
  | 2, _ => two
  | 3, _ => three
  | 4, _ => four
  | count + 5, _ => fold (count + 2) (Nat.le_add_left _ _)
      (digitCount_induction two three four fold _ _)

/-! ### Positions and weights -/

/-- The position of a digit with the power of two that the digit stands for. -/
def placeValue (position : Nat) : Int × Nat := (position, 2 ^ position)

theorem scaleRead_scaleRead (outer inner : Nat) (read : Int × Nat) :
    scaleRead outer (scaleRead inner read) = scaleRead (outer * inner) read := by
  rw [scaleRead, scaleRead, scaleRead, mul_assoc]

theorem scaleRead_two_pow (lower higher : Nat) (position : Int) :
    scaleRead (2 ^ lower) (position, 2 ^ higher) = (position, 2 ^ (lower + higher)) := by
  rw [scaleRead, pow_add]

theorem reverse_range_succ (count : Nat) :
    (List.range (count + 1)).reverse = count :: (List.range count).reverse := by
  rw [List.range_succ, List.reverse_append, List.reverse_singleton, List.singleton_append]

/-- Every row makes room for the digits that it takes in, so in the end an accumulator has
been multiplied by the power of two of all digits below it. -/
theorem foldl_unroll_intakes {count : Nat} (htwo : 2 ≤ count) (reads : List (Int × Nat)) :
    (intakes count).foldl Intake.unroll reads =
      reads.map (scaleRead (2 ^ (count - 1))) ++
        (List.range (count - 1)).reverse.map placeValue := by
  induction count, htwo using digitCount_induction generalizing reads with
  | two => rfl
  | three => rfl
  | four => rfl
  | fold count htwo ih =>
      obtain ⟨lower, rfl⟩ : ∃ lower, count = lower + 1 := ⟨count - 1, by omega⟩
      have hscale : scaleRead (2 ^ lower) ∘ scaleRead 8 = scaleRead (2 ^ (lower + 3)) := by
        funext read
        rw [Function.comp_apply, scaleRead_scaleRead, pow_add]
        rfl
      have hreads : [(((lower + 2 : Nat) : Int), 2 ^ 2), ((lower + 1 : Nat), 2 ^ 1),
          ((lower : Nat), 2 ^ 0)].map (scaleRead (2 ^ lower)) =
            (List.range' lower 3).reverse.map placeValue := by
        simp only [List.map_cons, scaleRead_two_pow]
        rfl
      have hrange : (List.range (lower + 3)).reverse =
          (List.range' lower 3).reverse ++ (List.range lower).reverse := by
        simp only [reverse_range_succ]
        rfl
      calc (intakes (lower + 1 + 3)).foldl Intake.unroll reads
          = (reads.map (scaleRead 8) ++ [(((lower + 2 : Nat) : Int), 2 ^ 2),
              ((lower + 1 : Nat), 2 ^ 1), ((lower : Nat), 2 ^ 0)]).map (scaleRead (2 ^ lower)) ++
                (List.range lower).reverse.map placeValue := by
            rw [intakes_add_three htwo, List.foldl_cons, ih]
            rfl
        _ = reads.map (scaleRead (2 ^ (lower + 3))) ++
              (List.range (lower + 3)).reverse.map placeValue := by
            rw [List.map_append, List.map_map, hscale, hreads, hrange, List.map_append,
              List.append_assoc]

/-- Unrolled to the digits, the equation of the checked variable has each digit once, with
its power of two. -/
theorem unrolledReads_eq {count : Nat} (htwo : 2 ≤ count) :
    unrolledReads count = (List.range count).reverse.map placeValue := by
  obtain ⟨lower, rfl⟩ : ∃ lower, count = lower + 1 := ⟨count - 1, by omega⟩
  have htop : scaleRead (2 ^ lower) (((lower + 1 : Nat) : Int) - 1, 1) = placeValue lower := by
    rw [scaleRead, placeValue, mul_one, Nat.cast_succ, add_sub_cancel_right]
  rw [unrolledReads, foldl_unroll_intakes htwo, Nat.add_sub_cancel, List.map_singleton, htop,
    reverse_range_succ]
  rfl

theorem map_fst_foldl_unroll (intakes : List Intake) (reads : List (Int × Nat)) :
    (intakes.foldl Intake.unroll reads).map Prod.fst =
      reads.map Prod.fst ++ intakes.flatMap (·.reads.map Prod.fst) := by
  induction intakes generalizing reads with
  | nil => simp
  | cons intake intakes ih =>
      rw [List.foldl_cons, ih, Intake.unroll, List.map_append, List.map_map, List.flatMap_cons,
        List.append_assoc]
      rfl

/-- Digits are read from the highest position down to the lowest. -/
theorem readPositions_eq {count : Nat} (htwo : 2 ≤ count) :
    readPositions count = (List.range count).reverse.map Nat.cast := by
  have hreads := map_fst_foldl_unroll (intakes count) [(count - 1, 1)]
  rw [← unrolledReads, unrolledReads_eq htwo, List.map_map] at hreads
  exact hreads.symm

theorem readPositions_bounds {count : Nat} (htwo : 2 ≤ count) {position : Int}
    (hposition : position ∈ readPositions count) : 0 ≤ position ∧ position < count := by
  rw [readPositions_eq htwo, List.mem_map] at hposition
  obtain ⟨digit, hdigit, rfl⟩ := hposition
  rw [List.mem_reverse, List.mem_range] at hdigit
  omega

theorem count_readPositions {count : Nat} (htwo : 2 ≤ count) {position : Nat}
    (hposition : position < count) : (readPositions count).count (position : Int) = 1 := by
  rw [readPositions_eq htwo, List.count_map_of_injective _ _ Nat.cast_injective,
    List.count_reverse]
  exact List.count_eq_one_of_mem List.nodup_range (List.mem_range.mpr hposition)

/-! ### Rows -/

/-- The variable that an index into the digits gives, which counts from the end if it is
negative. -/
def digitAt (digits : List BoolVar) (position : Int) : Nat :=
  ((position? digits.length position).bind (digits[·]?)).elim 0 (·.index)

namespace Intake

/-- The variable and the weight in one of the three places of a row. -/
def place (intake : Intake) (read : Int → Nat) (slot : Nat) : Nat × Nat :=
  intake.reads[slot]?.elim (0, 0) fun (position, weight) => (read position, weight)

def row (intake : Intake) (read : Int → Nat) (accumulator output : Nat) : Row F :=
  .linear accumulator (intake.place read 0).1 (intake.place read 1).1 (intake.place read 2).1
    output (.ofNat F intake.shift) (.ofNat F (intake.place read 0).2)
    (.ofNat F (intake.place read 1).2) (.ofNat F (intake.place read 2).2)

end Intake

/-- The rows that take in digits one after the other.  The variables from `fresh` on take the
accumulators, and the last row has the checked variable as output. -/
def intakeRows (read : Int → Nat) (checked accumulator fresh : Nat) : List Intake → List (Row F)
  | [] => []
  | [last] => [last.row read accumulator checked]
  | intake :: next :: later =>
    intake.row read accumulator fresh ::
      intakeRows read checked fresh (fresh + 1) (next :: later)

/-- The rows of a range check that take in its digits, from the highest down.  The variables
from `fresh` on take the accumulators. -/
def readingRows (digits : List BoolVar) (count checked fresh : Nat) : List (Row F) :=
  intakeRows (digitAt digits) checked (digitAt digits (count - 1)) fresh (intakes count)

theorem digitAt_natCast {first count position : Nat} (hposition : position < count) :
    digitAt ((List.range' first count).map .mk) position = first + position := by
  simp [digitAt, position?, hposition]

theorem intakes_ne_nil (count : Nat) : intakes count ≠ [] :=
  List.append_ne_nil_of_right_ne_nil _ (List.cons_ne_nil _ _)

theorem length_intakes (count : Nat) : (intakes count).length = foldCount count + 1 := by
  rw [intakes, List.length_append, List.length_map, List.length_range, List.length_singleton]

theorem intakeRows_cons {intakes : List Intake} (hintakes : intakes ≠ []) (read : Int → Nat)
    (checked accumulator fresh : Nat) (intake : Intake) :
    intakeRows (F := F) read checked accumulator fresh (intake :: intakes) =
      intake.row read accumulator fresh :: intakeRows read checked fresh (fresh + 1) intakes := by
  cases intakes with
  | nil => exact absurd rfl hintakes
  | cons next later => rfl

theorem length_intakeRows (read : Int → Nat) (checked accumulator fresh : Nat)
    (intakes : List Intake) :
    (intakeRows (F := F) read checked accumulator fresh intakes).length = intakes.length := by
  fun_induction intakeRows (F := F) read checked accumulator fresh intakes with
  | case1 | case2 => rfl
  | case3 accumulator fresh intake next later ih =>
      rw [List.length_cons, ih, List.length_cons (a := intake)]

/-- The last row writes the checked variable. -/
theorem output_getLast?_intakeRows {intakes : List Intake} (hintakes : intakes ≠ [])
    (read : Int → Nat) (checked accumulator fresh : Nat) :
    (intakeRows (F := F) read checked accumulator fresh intakes).getLast?.map (·.wires.wo) =
      some checked := by
  fun_induction intakeRows (F := F) read checked accumulator fresh intakes with
  | case1 => exact absurd rfl hintakes
  | case2 => rfl
  | case3 accumulator fresh intake next later ih =>
      have hrows : intakeRows (F := F) read checked fresh (fresh + 1) (next :: later) ≠ [] := by
        rw [← List.length_pos_iff, length_intakeRows]
        exact Nat.succ_pos _
      rw [List.getLast?_cons_of_ne_nil hrows]
      exact ih (List.cons_ne_nil _ _)

theorem reverse_range'_succ (first count : Nat) :
    (List.range' first (count + 1)).reverse =
      (first + count) :: (List.range' first count).reverse := by
  rw [List.range'_1_concat, List.reverse_append, List.reverse_singleton, List.singleton_append]

/-- The folds and the last row are those of a range check. -/
theorem intakeRows_intakes {count : Nat} (htwo : 2 ≤ count) {first : Nat} {read : Int → Nat}
    (hread : ∀ position : Nat, position < count → read position = first + position)
    (checked accumulator fresh : Nat) :
    intakeRows (F := F) read checked accumulator fresh (intakes count) =
      recomposeRows checked accumulator fresh (List.range' first (count - 1)).reverse := by
  induction count, htwo using digitCount_induction generalizing accumulator fresh with
  | two =>
      have hread0 : read 0 = first + 0 := hread 0 (by decide)
      have hrows : intakeRows (F := F) read checked accumulator fresh (intakes 2) =
          [.linear accumulator (read 0) 0 0 checked (.ofNat F 2) 1 0 0] := rfl
      rw [hrows, hread0]
      rfl
  | three =>
      have hread0 : read 0 = first + 0 := hread 0 (by decide)
      have hread1 : read 1 = first + 1 := hread 1 (by decide)
      have hrows : intakeRows (F := F) read checked accumulator fresh (intakes 3) =
          [.linear accumulator (read 1) (read 0) 0 checked (.ofNat F 4) (.ofNat F 2) 1 0] := rfl
      rw [hrows, hread1, hread0]
      rfl
  | four =>
      have hread0 : read 0 = first + 0 := hread 0 (by decide)
      have hread1 : read 1 = first + 1 := hread 1 (by decide)
      have hread2 : read 2 = first + 2 := hread 2 (by decide)
      have hrows : intakeRows (F := F) read checked accumulator fresh (intakes 4) =
          [.linear accumulator (read 2) (read 1) (read 0) checked (.ofNat F 8) (.ofNat F 4)
            (.ofNat F 2) 1] := rfl
      rw [hrows, hread2, hread1, hread0]
      rfl
  | fold count htwo ih =>
      obtain ⟨lower, rfl⟩ : ∃ lower, count = lower + 2 := ⟨count - 2, by omega⟩
      have hlower := ih fun position hposition => hread position (Nat.lt_add_right 3 hposition)
      have hrow : Intake.row ⟨8, [((lower + 3 : Nat), 4), ((lower + 2 : Nat), 2),
          ((lower + 1 : Nat), 1)]⟩ read accumulator fresh =
          .linear accumulator (read (lower + 3 : Nat)) (read (lower + 2 : Nat))
            (read (lower + 1 : Nat)) fresh (.ofNat F 8) (.ofNat F 4) (.ofNat F 2) 1 := rfl
      have hrows : recomposeRows (F := F) checked accumulator fresh
          (List.range' first (lower + 4)).reverse =
            .linear accumulator (first + (lower + 3)) (first + (lower + 2)) (first + (lower + 1))
              fresh (.ofNat F 8) (.ofNat F 4) (.ofNat F 2) 1 ::
              recomposeRows checked fresh (fresh + 1) (List.range' first (lower + 1)).reverse := by
        simp only [reverse_range'_succ]
        rfl
      calc intakeRows (F := F) read checked accumulator fresh (intakes (lower + 2 + 3))
          = Intake.row ⟨8, [((lower + 3 : Nat), 4), ((lower + 2 : Nat), 2),
              ((lower + 1 : Nat), 1)]⟩ read accumulator fresh ::
              recomposeRows checked fresh (fresh + 1) (List.range' first (lower + 1)).reverse := by
            rw [intakes_add_three htwo, intakeRows_cons (intakes_ne_nil _), hlower]
            rfl
        _ = recomposeRows checked accumulator fresh (List.range' first (lower + 4)).reverse := by
            rw [hrow, hrows, hread _ (by omega), hread _ (by omega), hread _ (by omega)]

/-- After the rows of its digits, a range check has the rows that take the digits in. -/
theorem digitRows_eq {count : Nat} (htwo : 2 ≤ count) {first : Nat} {digits : List BoolVar}
    (hdigits : digits = (List.range' first count).map .mk) (checked : Nat) :
    digitRows (F := F) checked first count =
      digits.map (Row.boolean ·.index) ++ readingRows digits count checked (first + count) := by
  have hread : ∀ position : Nat, position < count → digitAt digits position = first + position :=
    fun _ hposition => hdigits ▸ digitAt_natCast hposition
  obtain ⟨lower, rfl⟩ : ∃ lower, count = lower + 1 := ⟨count - 1, by omega⟩
  have htop : digitAt digits ((lower + 1 : Nat) - 1) = first + lower := by
    rw [Nat.cast_succ, add_sub_cancel_right, hread lower (Nat.lt_succ_self _)]
  have hboolean : digits.map (Row.boolean (F := F) ·.index) =
      (List.range' first (lower + 1)).map .boolean := by
    rw [hdigits, List.map_map]
    rfl
  rw [readingRows, intakeRows_intakes htwo hread, htop, hboolean, digitRows,
    reverse_range'_succ, Nat.add_sub_cancel]

/-- No row takes in more digits than it has places. -/
theorem length_reads_le {count : Nat} {intake : Intake} (hintake : intake ∈ intakes count) :
    intake.reads.length ≤ 3 := by
  rw [intakes, List.mem_append, List.mem_singleton, List.mem_map] at hintake
  rcases hintake with ⟨fold, -, rfl⟩ | rfl
  · exact Nat.le_refl 3
  · rw [lastIntake]
    split <;> decide

/-! ### Digits on the wires -/

/-- The variables on the input wires of a row. -/
def Row.inputs (row : Row F) : List Nat :=
  [row.wires.w1, row.wires.w2, row.wires.w3, row.wires.w4]

namespace Intake

/-- A place without a digit has variable 0. -/
theorem inputs_row {intake : Intake} (hreads : intake.reads.length ≤ 3) (read : Int → Nat)
    (accumulator output : Nat) :
    (intake.row (F := F) read accumulator output).inputs =
      [accumulator] ++ intake.reads.map (read ·.1) ++
        List.replicate (3 - intake.reads.length) 0 := by
  obtain ⟨shift, reads⟩ := intake
  match reads, hreads with
  | [], _ | [_], _ | [_, _], _ | [_, _, _], _ => rfl

theorem count_inputs_row {intake : Intake} (hreads : intake.reads.length ≤ 3) {index : Nat}
    (hindex : index ≠ 0) (read : Int → Nat) (accumulator output : Nat) :
    (intake.row (F := F) read accumulator output).inputs.count index =
      [accumulator].count index + (intake.reads.map (read ·.1)).count index := by
  rw [inputs_row hreads, List.count_append, List.count_append,
    List.count_eq_zero.mpr fun hmem => hindex (List.eq_of_mem_replicate hmem), add_zero]

end Intake

/-- Besides the first accumulator, only what is read lies below the later accumulators. -/
theorem count_inputs_intakeRows {intakes : List Intake} (hintakes : intakes ≠ [])
    (hreads : ∀ intake ∈ intakes, intake.reads.length ≤ 3) {index fresh : Nat}
    (hindex : index ≠ 0) (hfresh : index < fresh) (read : Int → Nat) (checked accumulator : Nat) :
    ((intakeRows (F := F) read checked accumulator fresh intakes).flatMap Row.inputs).count index =
      [accumulator].count index +
        (intakes.flatMap (·.reads.map (read ·.1))).count index := by
  fun_induction intakeRows (F := F) read checked accumulator fresh intakes with
  | case1 => exact absurd rfl hintakes
  | case2 accumulator fresh last =>
      have hlast := hreads last (List.mem_singleton_self last)
      rw [List.flatMap_singleton, List.flatMap_singleton, Intake.count_inputs_row hlast hindex]
  | case3 accumulator fresh intake next later ih =>
      rw [List.forall_mem_cons] at hreads
      have hlater := ih (List.cons_ne_nil _ _) hreads.2 (Nat.lt_succ_of_lt hfresh)
      have hnew : [fresh].count index = 0 :=
        List.count_eq_zero.mpr fun hmem => hfresh.ne (List.mem_singleton.mp hmem)
      rw [List.flatMap_cons, List.count_append, List.flatMap_cons, List.count_append, hlater,
        Intake.count_inputs_row hreads.1 hindex, hnew, zero_add, add_assoc]

/-- The variables that are read are all digits, the highest first. -/
theorem map_digitAt_readPositions {count : Nat} (htwo : 2 ≤ count) {first : Nat}
    {digits : List BoolVar} (hdigits : digits = (List.range' first count).map .mk) :
    (readPositions count).map (digitAt digits) = (List.range' first count).reverse := by
  have hread : ∀ position ∈ List.range count, digitAt digits position = first + position := by
    intro position hposition
    rw [hdigits, digitAt_natCast (List.mem_range.mp hposition)]
  rw [readPositions_eq htwo, List.map_map, List.map_reverse, List.range'_eq_map_range]
  exact congrArg List.reverse (List.map_congr_left hread)

/-- Each digit is on one input wire of one row. -/
theorem count_inputs_readingRows {count : Nat} (htwo : 2 ≤ count) {first : Nat}
    (hfirst : 0 < first) {digits : List BoolVar}
    (hdigits : digits = (List.range' first count).map .mk) (checked : Nat) {digit : BoolVar}
    (hdigit : digit ∈ digits) :
    ((readingRows (F := F) digits count checked (first + count)).flatMap Row.inputs).count
      digit.index = 1 := by
  have hmem : digit.index ∈ List.range' first count := by
    rw [hdigits, List.mem_map] at hdigit
    obtain ⟨index, hindex, rfl⟩ := hdigit
    exact hindex
  obtain ⟨hle, hlt⟩ := List.mem_range'_1.mp hmem
  have hsplit : [digitAt digits (count - 1)] ++
      (intakes count).flatMap (·.reads.map (digitAt digits ·.1)) =
        (readPositions count).map (digitAt digits) := by
    rw [readPositions, List.map_cons, List.map_flatMap]
    simp only [List.map_map, Function.comp_def, List.singleton_append]
  rw [readingRows, count_inputs_intakeRows (intakes_ne_nil count) (fun _ => length_reads_le)
    (hfirst.trans_le hle).ne' hlt, ← List.count_append, hsplit,
    map_digitAt_readPositions htwo hdigits, List.count_reverse]
  exact List.count_eq_one_of_mem List.nodup_range' hmem

/-! ### The equation of the checked variable -/

/-- The sum of the digits that are read under their weights. -/
def weightedSum (read : Int → Nat) (assigned : Nat → Element F) (reads : List (Int × Nat)) :
    Element F :=
  (reads.map fun (position, weight) => (weight : Element F) * assigned (read position)).sum

theorem weightedSum_append (read : Int → Nat) (assigned : Nat → Element F)
    (left right : List (Int × Nat)) :
    weightedSum read assigned (left ++ right) =
      weightedSum read assigned left + weightedSum read assigned right := by
  rw [weightedSum, List.map_append, List.sum_append, weightedSum, weightedSum]

theorem weightedSum_map_scaleRead (read : Int → Nat) (assigned : Nat → Element F) (factor : Nat)
    (reads : List (Int × Nat)) :
    weightedSum read assigned (reads.map (scaleRead factor)) =
      factor * weightedSum read assigned reads := by
  rw [weightedSum, weightedSum, List.map_map, ← List.sum_map_mul_left]
  simp only [Function.comp_def, scaleRead, Nat.cast_mul, mul_assoc]

namespace Intake

theorem holds_row {intake : Intake} (hreads : intake.reads.length ≤ 3) (read : Int → Nat)
    (accumulator output : Nat) (assigned : Nat → Element F) :
    (intake.row read accumulator output).Holds assigned ↔
      assigned output =
        intake.shift * assigned accumulator + weightedSum read assigned intake.reads := by
  obtain ⟨shift, reads⟩ := intake
  rw [row, Row.holds_linear]
  match reads, hreads with
  | [], _ | [_], _ | [_, _], _ | [_, _, _], _ =>
    simp [place, weightedSum, Element.ofNat_eq_natCast, add_assoc]

/-- One row: if the accumulator before it stands for a weighted sum, the one after it stands
for the sum with what the row takes in. -/
theorem output_eq_of_holds {intake : Intake} (hintake : intake.reads.length ≤ 3)
    {read : Int → Nat} {accumulator output : Nat} {assigned : Nat → Element F}
    (hholds : (intake.row read accumulator output).Holds assigned) {reads : List (Int × Nat)}
    (hreads : assigned accumulator = weightedSum read assigned reads) :
    assigned output = weightedSum read assigned (unroll reads intake) := by
  rw [(holds_row hintake ..).mp hholds, hreads, unroll, weightedSum_append,
    weightedSum_map_scaleRead]

end Intake

/-- All rows: the checked variable is what the reads, unrolled, amount to. -/
theorem checked_eq_of_holds {intakes : List Intake} (hintakes : intakes ≠ [])
    (hshort : ∀ intake ∈ intakes, intake.reads.length ≤ 3) {read : Int → Nat}
    {checked accumulator fresh : Nat} {assigned : Nat → Element F}
    (hholds : ∀ row ∈ intakeRows read checked accumulator fresh intakes, row.Holds assigned)
    {reads : List (Int × Nat)}
    (hreads : assigned accumulator = weightedSum read assigned reads) :
    assigned checked = weightedSum read assigned (intakes.foldl Intake.unroll reads) := by
  fun_induction intakeRows (F := F) read checked accumulator fresh intakes generalizing reads with
  | case1 => exact absurd rfl hintakes
  | case2 accumulator fresh last =>
      rw [List.forall_mem_singleton] at hholds hshort
      exact Intake.output_eq_of_holds hshort hholds hreads
  | case3 accumulator fresh intake next later ih =>
      rw [List.forall_mem_cons] at hholds hshort
      exact ih (List.cons_ne_nil _ _) hshort.2 hholds.2
        (Intake.output_eq_of_holds hshort.1 hholds.1 hreads)

/-- The digits add up to the checked variable with their powers of two. -/
theorem checked_eq_sum {count : Nat} (htwo : 2 ≤ count) {digits : List BoolVar}
    {checked fresh : Nat} {assigned : Nat → Element F}
    (hholds : ∀ row ∈ readingRows digits count checked fresh, row.Holds assigned) :
    assigned checked =
      ((List.range count).map fun position : Nat =>
        2 ^ position * assigned (digitAt digits position)).sum := by
  have htop : assigned (digitAt digits (count - 1)) =
      weightedSum (digitAt digits) assigned [((count : Int) - 1, 1)] := by
    simp [weightedSum]
  rw [checked_eq_of_holds (intakes_ne_nil count) (fun _ => length_reads_le) hholds htop,
    ← unrolledReads, unrolledReads_eq htwo, weightedSum, List.map_map, List.map_reverse,
    List.sum_reverse]
  simp only [Function.comp_def, placeValue, Nat.cast_pow, Nat.cast_ofNat]

/-! ### What a range check appends -/

namespace System

section AddDigits

variable {system : System F} {checked count : Nat} (htwo : 2 ≤ count) {digits : List BoolVar}
  (hdigits : digits = (List.range' system.numVars count).map .mk)

theorem numVars_addDigits (system : System F) (checked count : Nat) :
    (system.addDigits checked count).numVars = system.numVars + (count + foldCount count) := by
  rw [addDigits, numVars_grow, length_digitValues, foldCount]

include htwo hdigits

theorem rows_addDigits :
    (system.addDigits checked count).rows =
      system.rows ++ (digits.map (Row.boolean ·.index) ++
        readingRows digits count checked (system.numVars + count)) := by
  rw [addDigits, rows_grow, digitRows_eq htwo hdigits]

theorem drop_rows_addDigits :
    (system.addDigits checked count).rows.drop (system.size + count) =
      readingRows digits count checked (system.numVars + count) := by
  have hlength : (system.rows ++ digits.map (Row.boolean (F := F) ·.index)).length =
      system.size + count := by
    rw [List.length_append, List.length_map, hdigits, List.length_map, List.length_range', size]
  rw [rows_addDigits htwo hdigits, ← List.append_assoc, List.drop_left' hlength]

theorem size_addDigits :
    (system.addDigits checked count).size = system.size + (count + foldCount count + 1) := by
  rw [size, rows_addDigits htwo hdigits, List.length_append, List.length_append, List.length_map,
    hdigits, List.length_map, List.length_range', readingRows, length_intakeRows, length_intakes,
    size, Nat.add_assoc count]

theorem output_getLast?_addDigits :
    (system.addDigits checked count).rows.getLast?.map (·.wires.wo) = some checked := by
  have hlast := output_getLast?_intakeRows (F := F) (intakes_ne_nil count) (digitAt digits) checked
    (digitAt digits (count - 1)) (system.numVars + count)
  rw [← readingRows] at hlast
  have hne : readingRows (F := F) digits count checked (system.numVars + count) ≠ [] := by
    intro hnil
    rw [hnil] at hlast
    cases hlast
  rw [rows_addDigits htwo hdigits,
    List.getLast?_append_of_ne_nil _ (List.append_ne_nil_of_right_ne_nil _ hne),
    List.getLast?_append_of_ne_nil _ hne, hlast]

end AddDigits

end System

end Plonkish
