import Plonkish.Circuit.ArithmeticRange
import Plonkish.Proofs.Circuit.Steps
import Plonkish.Proofs.Gadget.Recomposition
import Plonkish.Proofs.Run.Calls

/-!
# The system of the circuit with a bounded result

With fit arguments the circuit is only refused for more digits than a list can have.  The
system that it becomes grows from the empty one by the two inputs, three formulas and one
range check.
-/

namespace Plonkish

variable {F : BaseField}

namespace ArithmeticRange

/-! ### Arguments -/

/-- The arguments of the circuit as what they stand for. -/
structure Numbers (F : BaseField) where
  a : Element F
  b : Element F
  w0 : Element F
  w1 : Element F
  w2 : Element F
  w3 : Element F
  bitCount : Nat
  booleanA : Bool

/-- Every argument is of the kind that the circuit takes. -/
structure StandsFor (circuit : ArithmeticRange) (numbers : Numbers F) : Prop where
  a_eq : circuit.a.toElement F = .ok numbers.a
  b_eq : circuit.b.toElement F = .ok numbers.b
  weights_eq : circuit.weights.elements F = .ok [numbers.w0, numbers.w1, numbers.w2, numbers.w3]
  bitCount_eq : circuit.bitCount.toNumber = .ok (numbers.bitCount : Int)
  two_le : 2 ≤ numbers.bitCount
  booleanA_eq : circuit.booleanA.truth = .ok numbers.booleanA

theorem StandsFor.exists_weights {circuit : ArithmeticRange} {numbers : Numbers F}
    (hnumbers : circuit.StandsFor numbers) :
    ∃ v0 v1 v2 v3, circuit.weights.entries = .ok [v0, v1, v2, v3] ∧
      v0.toElement F = .ok numbers.w0 ∧ v1.toElement F = .ok numbers.w1 ∧
      v2.toElement F = .ok numbers.w2 ∧ v3.toElement F = .ok numbers.w3 := by
  obtain ⟨entries, hentries, hcolumn⟩ := bind_eq_ok_iff.mp hnumbers.weights_eq
  have hlength := length_of_mapM_eq_ok hcolumn
  rcases entries with _ | ⟨v0, _ | ⟨v1, _ | ⟨v2, _ | ⟨v3, _ | ⟨v4, rest⟩⟩⟩⟩⟩
  case cons.cons.cons.cons.nil =>
      simp only [Value.toColumn, List.mapM_cons, List.mapM_nil, bind_eq_ok_iff] at hcolumn
      obtain ⟨e0, h0, _, ⟨e1, h1, _, ⟨e2, h2, _, ⟨e3, h3, _, ⟨⟩, ⟨⟩⟩, ⟨⟩⟩, ⟨⟩⟩, ⟨⟩⟩ := hcolumn
      exact ⟨v0, v1, v2, v3, hentries, h0, h1, h2, h3⟩
  all_goals simp at hlength

namespace Numbers

variable (numbers : Numbers F) (quotient : QuotientDomain)

/-- The weighted sum of the inputs, their sum and their product. -/
def weigh (a b c d : Element F) : Element F :=
  numbers.w0 * a + numbers.w1 * b + numbers.w2 * c + numbers.w3 * d

/-- The value whose range is checked. -/
def result : Element F :=
  numbers.weigh numbers.a numbers.b (numbers.a + numbers.b) (numbers.a * numbers.b)

/-! ### The system -/

/-- The two inputs, the first of which may be forced to be 0 or 1. -/
def inputs : System F :=
  (System.empty F quotient).grow [numbers.a, numbers.b]
    (if numbers.booleanA then [.boolean 0] else [])

/-- The inputs with their sum. -/
def summed : System F :=
  (numbers.inputs quotient).define (.sum 0 1)

def multiplied : System F :=
  (numbers.summed quotient).define (.product 0 1)

def weighted : System F :=
  (numbers.multiplied quotient).define (.linear 0 1 2 3 numbers.w0 numbers.w1 numbers.w2 numbers.w3)

def system : System F :=
  (numbers.weighted quotient).addDigits 4 numbers.bitCount

@[simp]
theorem numVars_inputs : (numbers.inputs quotient).numVars = 2 := rfl

@[simp]
theorem numVars_summed : (numbers.summed quotient).numVars = 3 := rfl

@[simp]
theorem numVars_multiplied : (numbers.multiplied quotient).numVars = 4 := rfl

@[simp]
theorem numVars_weighted : (numbers.weighted quotient).numVars = 5 := rfl

@[simp]
theorem numVars_system : (numbers.system quotient).numVars =
    5 + (numbers.bitCount + (numbers.bitCount - 2) / 3) := by
  rw [system, System.addDigits, System.numVars_grow, length_digitValues, numVars_weighted]

theorem phase_system : (numbers.system quotient).phase = .building := rfl

/-- The variables of the circuit. -/
def found : Variables where
  a := 0
  b := 1
  c := 2
  d := 3
  e := 4
  digits := (List.range' 5 numbers.bitCount).map .mk

end Numbers

/-- What is built once the inputs are there. -/
def finish (circuit : ArithmeticRange) (a b : Nat) : Builder F Variables := do
  let c ← Builder.add (.ofNat a) (.ofNat b)
  let d ← Builder.mul (.ofNat a) (.ofNat b)
  match ← Checked.entries circuit.weights with
  | [w0, w1, w2, w3] =>
    let inputs := Value.list [.ofNat a, .ofNat b, .ofNat c, .ofNat d]
    let e ← Builder.linearCombine inputs w0 w1 w2 w3
    let digits ← Builder.rangeCheck (.ofNat e) circuit.bitCount
    return { a, b, c, d, e, digits }
  | weights => throw (.input (.weightCount weights.length))

theorem build_eq (circuit : ArithmeticRange) :
    (circuit.build : Builder F Variables) = (do
      let a ← Builder.newVariable circuit.a
      let b ← Builder.newVariable circuit.b
      if ← Checked.ofExcept circuit.booleanA.truth then
        Builder.insertBooleanGate (.ofNat a) >>= fun _ => circuit.finish a b
      else circuit.finish a b) := rfl

variable {circuit : ArithmeticRange} {numbers : Numbers F}

/-- The gadgets grow the system as described, one after the other. -/
theorem run_finish (hnumbers : circuit.StandsFor numbers) (quotient : QuotientDomain) :
    (circuit.finish 0 1).run.run (numbers.inputs quotient) =
      if CanExtend (numbers.bitCount - (8 * F.byteLength : Nat)) then
        (.ok numbers.found, numbers.system quotient)
      else (.error (extensionRefusal (numbers.bitCount - (8 * F.byteLength : Nat))),
        numbers.weighted quotient) := by
  obtain ⟨v0, v1, v2, v3, hentries, h0, h1, h2, h3⟩ := hnumbers.exists_weights
  have hsum : (Builder.add (.ofNat 0) (.ofNat 1)).run.run (numbers.inputs quotient) =
      (.ok 2, numbers.summed quotient) :=
    Builder.run_add rfl (by simp) (by simp)
  have hproduct : (Builder.mul (.ofNat 0) (.ofNat 1)).run.run (numbers.summed quotient) =
      (.ok 3, numbers.multiplied quotient) :=
    Builder.run_mul rfl (by simp) (by simp)
  have hentriesRun : (Checked.entries circuit.weights : Builder F _).run.run
      (numbers.multiplied quotient) = (.ok [v0, v1, v2, v3], numbers.multiplied quotient) :=
    Checked.run_entries hentries _
  have hweighted : (Builder.linearCombine (.list [.ofNat 0, .ofNat 1, .ofNat 2, .ofNat 3])
      v0 v1 v2 v3).run.run (numbers.multiplied quotient) =
      (.ok 4, numbers.weighted quotient) :=
    Builder.run_linearCombine rfl (Value.entries_list _) h0 h1 h2 h3
      (.cons (System.names_ofNat (by simp)) (.cons (System.names_ofNat (by simp))
        (.cons (System.names_ofNat (by simp)) (.cons (System.names_ofNat (by simp)) .nil))))
  have hchecked : (numbers.weighted quotient).Names (.ofNat 4) 4 := System.names_ofNat (by simp)
  have hdigits := Builder.run_rangeCheck rfl hchecked hnumbers.bitCount_eq hnumbers.two_le
  rw [finish, Checked.run_bind_ok hsum, Checked.run_bind_ok hproduct,
    Checked.run_bind_ok hentriesRun]
  simp only
  rw [Checked.run_bind_ok hweighted]
  by_cases hfits : CanExtend (numbers.bitCount - (8 * F.byteLength : Nat))
  · rw [if_pos hfits] at hdigits ⊢
    exact Checked.run_bind_ok hdigits
  · rw [if_neg hfits] at hdigits ⊢
    exact Checked.run_bind_error hdigits

/-- With arguments of the right kinds only the range check is refused, for its digits. -/
theorem run_build (hnumbers : circuit.StandsFor numbers) (quotient : QuotientDomain) :
    circuit.build.run.run (System.empty F quotient) =
      if CanExtend (numbers.bitCount - (8 * F.byteLength : Nat)) then
        (.ok numbers.found, numbers.system quotient)
      else (.error (extensionRefusal (numbers.bitCount - (8 * F.byteLength : Nat))),
        numbers.weighted quotient) := by
  have hflag : (Checked.ofExcept circuit.booleanA.truth : Builder F Bool).run.run
      (((System.empty F quotient).grow [numbers.a] []).grow [numbers.b] []) =
      (.ok numbers.booleanA,
        ((System.empty F quotient).grow [numbers.a] []).grow [numbers.b] []) :=
    congrArg (·, _) hnumbers.booleanA_eq
  rw [build_eq, Checked.run_bind_ok (Builder.run_newVariable_of_toElement rfl hnumbers.a_eq),
    Checked.run_bind_ok (Builder.run_newVariable_of_toElement rfl hnumbers.b_eq),
    Checked.run_bind_ok hflag]
  have hfinish := run_finish hnumbers quotient
  rw [Numbers.inputs] at hfinish
  cases hboolean : numbers.booleanA with
  | false =>
      rw [hboolean] at hfinish
      exact hfinish
  | true =>
      rw [hboolean] at hfinish
      have hrow : (Builder.insertBooleanGate (.ofNat 0)).run.run
          (((System.empty F quotient).grow [numbers.a] []).grow [numbers.b] []) =
          (.ok ⟨0⟩, (System.empty F quotient).grow [numbers.a, numbers.b] [.boolean 0]) :=
        Builder.run_insertBooleanGate rfl (System.names_ofNat Nat.two_pos)
      rw [if_pos rfl]
      exact (Checked.run_bind_ok hrow).trans hfinish

/-! ### What a witness has to satisfy -/

/-- The variables of the intermediate results of the range check, which follow the digits. -/
def Variables.accumulators (found : Variables) : List Nat :=
  List.range' (found.e + 1 + found.digits.length) ((found.digits.length - 2) / 3)

namespace Numbers

/-- The values of the variables fit together: the digits write a number that stands for
the weighted sum, and each accumulator is what the digits so far write. -/
structure Solved (numbers : Numbers F) (found : Variables) (assigned : Nat → Element F) :
    Prop where
  sum : assigned found.c = assigned found.a + assigned found.b
  product : assigned found.d = assigned found.a * assigned found.b
  weighted : assigned found.e = numbers.weigh (assigned found.a) (assigned found.b)
    (assigned found.c) (assigned found.d)
  boolean : numbers.booleanA = true → assigned found.a = 0 ∨ assigned found.a = 1
  written : ∃ number : Nat, number < 2 ^ numbers.bitCount ∧
    (number : Element F) = assigned found.e ∧
    found.digits.map (fun digit => assigned digit.index) =
      (List.range numbers.bitCount).map (fun position =>
        Element.ofBit F (number.testBit position)) ∧
    found.accumulators.map assigned = (List.range ((numbers.bitCount - 2) / 3)).map fun step =>
      ((number / 2 ^ (numbers.bitCount - 4 - 3 * step) : Nat) : Element F)

variable (numbers : Numbers F) (quotient : QuotientDomain)

theorem wellFormed_inputs : (numbers.inputs quotient).WellFormed := by
  apply (System.wellFormed_empty F quotient).grow
  cases numbers.booleanA <;> simp [Row.boolean, Row.product, Wires.toList]

theorem operands_sum_lt : ∀ index ∈ (Formula.sum 0 1 : Formula F).operands,
    index < (numbers.inputs quotient).numVars := by
  simp [Formula.operands]

theorem operands_product_lt : ∀ index ∈ (Formula.product 0 1 : Formula F).operands,
    index < (numbers.summed quotient).numVars := by
  simp [Formula.operands]

theorem operands_linear_lt (q1 q2 q3 q4 : Element F) :
    ∀ index ∈ (Formula.linear 0 1 2 3 q1 q2 q3 q4).operands,
      index < (numbers.multiplied quotient).numVars := by
  simp [Formula.operands]

theorem wellFormed_summed : (numbers.summed quotient).WellFormed :=
  (numbers.wellFormed_inputs quotient).define (numbers.operands_sum_lt quotient)

theorem wellFormed_multiplied : (numbers.multiplied quotient).WellFormed :=
  (numbers.wellFormed_summed quotient).define (numbers.operands_product_lt quotient)

theorem wellFormed_weighted : (numbers.weighted quotient).WellFormed :=
  (numbers.wellFormed_multiplied quotient).define (numbers.operands_linear_lt quotient _ _ _ _)

theorem wellFormed_system (htwo : 2 ≤ numbers.bitCount) : (numbers.system quotient).WellFormed :=
  (numbers.wellFormed_weighted quotient).addDigits (by simp) htwo

theorem satisfied_inputs (assigned : Nat → Element F) :
    (numbers.inputs quotient).Satisfied assigned ↔
      (numbers.booleanA = true → assigned 0 = 0 ∨ assigned 0 = 1) := by
  have hempty : (System.empty F quotient).Satisfied assigned := nofun
  rw [inputs, (System.wellFormed_empty F quotient).satisfied_grow, and_iff_right hempty]
  cases numbers.booleanA with
  | false => simp
  | true => simp [Row.holds_boolean]

theorem satisfied_weighted (assigned : Nat → Element F) :
    (numbers.weighted quotient).Satisfied assigned ↔
      (((numbers.booleanA = true → assigned 0 = 0 ∨ assigned 0 = 1) ∧
        assigned 2 = assigned 0 + assigned 1) ∧ assigned 3 = assigned 0 * assigned 1) ∧
        assigned 4 = numbers.weigh (assigned 0) (assigned 1) (assigned 2) (assigned 3) := by
  rw [weighted, (numbers.wellFormed_multiplied quotient).satisfied_define, multiplied,
    (numbers.wellFormed_summed quotient).satisfied_define, summed,
    (numbers.wellFormed_inputs quotient).satisfied_define, numbers.satisfied_inputs]
  rfl

theorem map_found_digits (assigned : Nat → Element F) :
    numbers.found.digits.map (fun digit => assigned digit.index) =
      (List.range' 5 numbers.bitCount).map assigned := by
  rw [found, List.map_map]
  rfl

theorem accumulators_found : numbers.found.accumulators =
    List.range' (5 + numbers.bitCount) ((numbers.bitCount - 2) / 3) := by
  rw [Variables.accumulators, found, List.length_map, List.length_range']

/-- The digits and the accumulators are all that a range check adds. -/
theorem map_assigned_eq_digitValues_iff {number : Nat} (htwo : 2 ≤ numbers.bitCount)
    (hlt : number < 2 ^ numbers.bitCount) (assigned : Nat → Element F) :
    (List.range' 5 (numbers.bitCount + (numbers.bitCount - 2) / 3)).map assigned =
        digitValues F number numbers.bitCount ↔
      numbers.found.digits.map (fun digit => assigned digit.index) =
          (List.range numbers.bitCount).map (fun position =>
            Element.ofBit F (number.testBit position)) ∧
        numbers.found.accumulators.map assigned =
          (List.range ((numbers.bitCount - 2) / 3)).map fun step =>
            ((number / 2 ^ (numbers.bitCount - 4 - 3 * step) : Nat) : Element F) := by
  rw [digitValues_eq htwo hlt, ← List.range'_append_1, List.map_append, map_found_digits,
    accumulators_found]
  constructor
  · intro heq
    exact List.append_inj heq (by simp)
  · rintro ⟨hdigits, haccumulators⟩
    rw [hdigits, haccumulators]
    rfl

/-- The system is satisfied exactly if the values of its variables fit together. -/
theorem satisfied_system (htwo : 2 ≤ numbers.bitCount) (assigned : Nat → Element F) :
    (numbers.system quotient).Satisfied assigned ↔ numbers.Solved numbers.found assigned := by
  rw [system, (numbers.wellFormed_weighted quotient).satisfied_addDigits htwo,
    numbers.satisfied_weighted, numVars_weighted]
  constructor
  · rintro ⟨⟨⟨⟨hboolean, hsum⟩, hproduct⟩, hweighted⟩, number, hlt, hnumber, hvalues⟩
    have hwritten := (numbers.map_assigned_eq_digitValues_iff htwo hlt assigned).mp hvalues
    exact ⟨hsum, hproduct, hweighted, hboolean, number, hlt, hnumber, hwritten⟩
  · rintro ⟨hsum, hproduct, hweighted, hboolean, number, hlt, hnumber, hwritten⟩
    have hvalues := (numbers.map_assigned_eq_digitValues_iff htwo hlt assigned).mpr hwritten
    exact ⟨⟨⟨⟨hboolean, hsum⟩, hproduct⟩, hweighted⟩, number, hlt, hnumber, hvalues⟩

/-! ### The stored values -/

theorem witness_weighted : (numbers.weighted quotient).witness =
    [numbers.a, numbers.b, numbers.a + numbers.b, numbers.a * numbers.b, numbers.result] := rfl

theorem honest_inputs : (numbers.inputs quotient).Honest ↔
    (numbers.booleanA = true → numbers.a = 0 ∨ numbers.a = 1) :=
  numbers.satisfied_inputs quotient _

theorem honest_weighted : (numbers.weighted quotient).Honest ↔
    (numbers.booleanA = true → numbers.a = 0 ∨ numbers.a = 1) := by
  rw [weighted, (numbers.wellFormed_multiplied quotient).honest_define nofun
      (numbers.operands_linear_lt quotient _ _ _ _),
    multiplied, (numbers.wellFormed_summed quotient).honest_define nofun
      (numbers.operands_product_lt quotient),
    summed, (numbers.wellFormed_inputs quotient).honest_define nofun
      (numbers.operands_sum_lt quotient), honest_inputs]

/-- The stored values satisfy the system exactly if the weighted sum is in range. -/
theorem honest_system (htwo : 2 ≤ numbers.bitCount) : (numbers.system quotient).Honest ↔
    numbers.result.val < 2 ^ numbers.bitCount ∧
      (numbers.booleanA = true → numbers.a = 0 ∨ numbers.a = 1) := by
  rw [system, (numbers.wellFormed_weighted quotient).honest_addDigits nofun (by simp) htwo,
    honest_weighted, System.stored, witness_weighted, and_comm]
  rfl

end Numbers

end ArithmeticRange

end Plonkish
