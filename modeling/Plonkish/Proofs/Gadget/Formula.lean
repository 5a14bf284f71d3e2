import Plonkish.Gadget.Arithmetic
import Plonkish.Proofs.System.WellFormed

/-!
# Variables defined by a formula

A gadget for arithmetic appends one variable and one row.  The row holds exactly if
the variable has the value that a formula gives for its operands, and the value that
is stored for the variable is that of the same formula.
-/

namespace Plonkish

variable {F : BaseField}

/-- A value computed from variables. -/
inductive Formula (F : BaseField) where
  | linear (w1 w2 w3 w4 : Nat) (q1 q2 q3 q4 : Element F)
  | sum (left right : Nat)
  | difference (left right : Nat)
  | product (left right : Nat)
  /-- The variable `var0` where `bit` is 0 and `var1` where it is 1. -/
  | selection (bit var0 var1 : Nat)

namespace Formula

def value (assigned : Nat → Element F) : Formula F → Element F
  | linear w1 w2 w3 w4 q1 q2 q3 q4 =>
    q1 * assigned w1 + q2 * assigned w2 + q3 * assigned w3 + q4 * assigned w4
  | sum left right => assigned left + assigned right
  | difference left right => assigned left - assigned right
  | product left right => assigned left * assigned right
  | selection bit var0 var1 =>
    assigned var0 + assigned bit * (assigned var1 - assigned var0)

/-- The row that gives the value to the variable `output`. -/
def row (output : Nat) : Formula F → Row F
  | linear w1 w2 w3 w4 q1 q2 q3 q4 => .linear w1 w2 w3 w4 output q1 q2 q3 q4
  | sum left right => .sum left right output
  | difference left right => .difference left right output
  | product left right => .product left right output
  | selection bit var0 var1 => .selection bit var0 var1 output

def operands : Formula F → List Nat
  | linear w1 w2 w3 w4 .. => [w1, w2, w3, w4]
  | sum left right | difference left right | product left right => [left, right]
  | selection bit var0 var1 => [bit, var0, var1]

theorem holds_row_iff (formula : Formula F) (output : Nat) (assigned : Nat → Element F) :
    (formula.row output).Holds assigned ↔ assigned output = formula.value assigned := by
  cases formula with
  | linear => exact Row.holds_linear ..
  | sum => exact Row.holds_sum ..
  | difference => exact Row.holds_difference ..
  | product => exact Row.holds_product ..
  | selection => exact Row.holds_selection ..

theorem value_congr {formula : Formula F} {left right : Nat → Element F}
    (hoperands : ∀ index ∈ formula.operands, left index = right index) :
    formula.value left = formula.value right := by
  cases formula <;> simp_all [operands, value]

/-- Besides operands and output a wire only carries variable 0. -/
theorem mem_wires_row {formula : Formula F} {output index : Nat}
    (hindex : index ∈ (formula.row output).wires.toList) :
    index ∈ formula.operands ∨ index = output ∨ index = 0 := by
  cases formula <;>
    simp only [row, Row.linear, Row.sum, Row.difference, Row.product, Row.selection,
      Wires.toList, operands, List.mem_cons, List.not_mem_nil, or_false] at hindex ⊢ <;>
    tauto

end Formula

/-- The variable is one of the system, with its stored value. -/
structure Variable.In (found : Variable F) (system : System F) : Prop where
  index_lt : found.index < system.numVars
  value_eq : found.value = system.stored found.index

theorem Variable.In.extends {found : Variable F} {earlier later : System F}
    (hfound : found.In earlier) (hextends : earlier.Extends later) : found.In later where
  index_lt := hfound.index_lt.trans_le hextends.numVars_le
  value_eq := hfound.value_eq.trans (hextends.stored_eq _ hfound.index_lt).symm

namespace System

/-- The variable that a formula defines next. -/
def output (system : System F) (formula : Formula F) : Variable F :=
  ⟨system.numVars, formula.value system.stored⟩

/-- The system with a variable at its end that is defined by a formula. -/
def define (system : System F) (formula : Formula F) : System F :=
  system.grow [formula.value system.stored] [formula.row system.numVars]

@[simp]
theorem numVars_define (system : System F) (formula : Formula F) :
    (system.define formula).numVars = system.numVars + 1 := rfl

@[simp]
theorem phase_define (system : System F) (formula : Formula F) :
    (system.define formula).phase = system.phase := rfl

@[simp]
theorem bindings_define (system : System F) (formula : Formula F) :
    (system.define formula).bindings = system.bindings := rfl

theorem extends_define {system : System F} (hlength : system.witness.length = system.numVars)
    (formula : Formula F) : system.Extends (system.define formula) :=
  extends_grow hlength _ _

theorem stored_define_of_lt {system : System F}
    (hlength : system.witness.length = system.numVars) (formula : Formula F) {index : Nat}
    (hindex : index < system.numVars) :
    (system.define formula).stored index = system.stored index :=
  stored_grow_of_lt hlength _ _ hindex

theorem stored_define_self {system : System F}
    (hlength : system.witness.length = system.numVars) (formula : Formula F) :
    (system.define formula).stored system.numVars = formula.value system.stored :=
  stored_grow_add hlength _ _ 0

theorem output_in_define {system : System F}
    (hlength : system.witness.length = system.numVars) (formula : Formula F) :
    (system.output formula).In (system.define formula) where
  index_lt := Nat.lt_succ_self _
  value_eq := (stored_define_self hlength formula).symm

/-- A variable without a row. -/
theorem added_in_grow {system : System F}
    (hlength : system.witness.length = system.numVars) (value : Element F) :
    (⟨system.numVars, value⟩ : Variable F).In (system.grow [value] []) where
  index_lt := Nat.lt_succ_self _
  value_eq := (stored_grow_add hlength [value] [] 0).symm

namespace WellFormed

variable {system : System F} {formula : Formula F}

theorem reserved_in_reserve (hsystem : system.WellFormed) (hphase : system.phase ≠ .proving)
    (constant : Reserved) :
    (⟨system.reservedIndex constant, constant.value F⟩ : Variable F).In
      (system.reserve constant) where
  index_lt := hsystem.reservedIndex_lt constant
  value_eq := ((hsystem.reserve constant).stored_reserved (by rwa [phase_reserve]) constant _
    (system.reserved?_reserve_self constant)).symm

theorem define (hsystem : system.WellFormed)
    (hoperands : ∀ index ∈ formula.operands, index < system.numVars) :
    (system.define formula).WellFormed := by
  apply hsystem.grow
  rw [List.forall_mem_singleton, List.length_singleton]
  intro index hindex
  rcases Formula.mem_wires_row hindex with hoperand | rfl | rfl
  · exact Nat.lt_succ_of_lt (hoperands index hoperand)
  · exact Nat.lt_succ_self _
  · exact Nat.succ_pos _

theorem satisfied_define (hsystem : system.WellFormed) (assigned : Nat → Element F) :
    (system.define formula).Satisfied assigned ↔
      system.Satisfied assigned ∧ assigned system.numVars = formula.value assigned := by
  rw [System.define, hsystem.satisfied_grow, List.forall_mem_singleton, Formula.holds_row_iff]

/-- The value that is stored for a defined variable satisfies its row. -/
theorem honest_define (hsystem : system.WellFormed) (hphase : system.phase ≠ .proving)
    (hoperands : ∀ index ∈ formula.operands, index < system.numVars) :
    (system.define formula).Honest ↔ system.Honest := by
  have hlength := hsystem.length_witness hphase
  have hvalue : formula.value (system.define formula).stored = formula.value system.stored :=
    Formula.value_congr fun index hindex =>
      stored_define_of_lt hlength formula (hoperands index hindex)
  have hself : (system.define formula).stored system.numVars =
      formula.value (system.define formula).stored :=
    (stored_define_self hlength formula).trans hvalue.symm
  rw [System.define, hsystem.honest_grow hphase, List.forall_mem_singleton,
    Formula.holds_row_iff]
  exact and_iff_left hself

end WellFormed

end System

namespace Emit

theorem run_bind {α β : Type} (first : Emit F α) (next : α → Emit F β) (system : System F) :
    (first >>= next).run system = (next (first.run system).1).run (first.run system).2 := rfl

theorem run_bind_of {α β : Type} {first : Emit F α} {next : α → Emit F β} {before after : System F}
    {result : α} (hfirst : first.run before = (result, after)) :
    (first >>= next).run before = (next result).run after := by
  rw [run_bind, hfirst]

theorem run_addVariable (value : Element F) (system : System F) :
    (addVariable value).run system = (⟨system.numVars, value⟩, system.grow [value] []) := by
  rw [System.grow, List.append_nil]
  rfl

def addedVariables (first : Nat) (values : List (Element F)) : List (Variable F) :=
  (values.zipIdx first).map fun place => ⟨place.2, place.1⟩

theorem map_index_addedVariables (first : Nat) (values : List (Element F)) :
    (addedVariables first values).map (·.index) = List.range' first values.length := by
  rw [addedVariables, List.map_map]
  exact List.zipIdx_map_snd first values

theorem map_value_addedVariables (first : Nat) (values : List (Element F)) :
    (addedVariables first values).map (·.value) = values := by
  rw [addedVariables, List.map_map]
  exact List.zipIdx_map_fst first values

theorem run_addVariables (values : List (Element F)) (system : System F) :
    (addVariables values).run system =
      (addedVariables system.numVars values, system.grow values []) := by
  induction values generalizing system with
  | nil =>
      rw [System.grow_nil]
      rfl
  | cons value values ih =>
      rw [addVariables, List.mapM_cons, run_bind_of (run_addVariable value system), ← addVariables,
        run_bind_of (ih _), System.grow_grow]
      rfl

theorem run_addRow (row : Row F) (system : System F) :
    (addRow row).run system = (system.size, system.grow [] [row]) := by
  rw [System.grow, List.append_nil]
  rfl

/-- Appends a variable together with a row for it. -/
theorem run_addDefined (value : Element F) (row : Nat → Row F) (system : System F) :
    (do
      let output ← addVariable value
      let _ ← addRow (row output.index)
      return output : Emit F (Variable F)).run system =
        (⟨system.numVars, value⟩, system.grow [value] [row system.numVars]) := by
  rw [run_bind, run_addVariable, run_bind, run_addRow, System.grow_grow]
  rfl

/-- The gadget of a formula appends the variable that the formula defines. -/
theorem run_define (formula : Formula F) {value : Element F} {system : System F}
    (hvalue : value = formula.value system.stored) :
    (do
      let output ← addVariable value
      let _ ← addRow (formula.row output.index)
      return output : Emit F (Variable F)).run system =
        (system.output formula, system.define formula) := by
  rw [run_addDefined value formula.row, System.define, System.output, ← hvalue]

variable {system : System F} {left right : Variable F}

theorem run_sum (hleft : left.In system) (hright : right.In system) :
    (sum left right).run system =
      (system.output (.sum left.index right.index),
        system.define (.sum left.index right.index)) :=
  run_define (.sum left.index right.index) (by rw [Formula.value, hleft.value_eq, hright.value_eq])

theorem run_difference (hleft : left.In system) (hright : right.In system) :
    (difference left right).run system =
      (system.output (.difference left.index right.index),
        system.define (.difference left.index right.index)) :=
  run_define (.difference left.index right.index)
    (by rw [Formula.value, hleft.value_eq, hright.value_eq])

theorem run_product (hleft : left.In system) (hright : right.In system) :
    (product left right).run system =
      (system.output (.product left.index right.index),
        system.define (.product left.index right.index)) :=
  run_define (.product left.index right.index)
    (by rw [Formula.value, hleft.value_eq, hright.value_eq])

theorem run_linearCombination {w1 w2 w3 w4 : Variable F} (q1 q2 q3 q4 : Element F)
    (h1 : w1.In system) (h2 : w2.In system) (h3 : w3.In system) (h4 : w4.In system) :
    (linearCombination w1 w2 w3 w4 q1 q2 q3 q4).run system =
      (system.output (.linear w1.index w2.index w3.index w4.index q1 q2 q3 q4),
        system.define (.linear w1.index w2.index w3.index w4.index q1 q2 q3 q4)) :=
  run_define (.linear w1.index w2.index w3.index w4.index q1 q2 q3 q4)
    (by rw [Formula.value, h1.value_eq, h2.value_eq, h3.value_eq, h4.value_eq])

theorem run_selection {bit var0 var1 : Variable F} (hbit : bit.In system) (h0 : var0.In system)
    (h1 : var1.In system) :
    (selection bit var0 var1).run system =
      (system.output (.selection bit.index var0.index var1.index),
        system.define (.selection bit.index var0.index var1.index)) :=
  run_define (.selection bit.index var0.index var1.index)
    (by rw [Formula.value, hbit.value_eq, h0.value_eq, h1.value_eq])

end Emit

end Plonkish
