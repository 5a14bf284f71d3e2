import Plonkish.Proofs.Operation.Accepted

/-!
# Steps of circuits

A circuit is built by one call after the other.  With arguments that name variables or stand
for elements no call is refused while the system is being built, and each one grows the
system by what it is there for.
-/

namespace Plonkish

variable {F : BaseField}

namespace Builder

variable {system : System F}

open Checked

theorem run_ensureBuilding (hphase : system.phase = .building) :
    (ensureBuilding : Builder F Unit).run.run system = (.ok (), system) :=
  congrArg (·, system) (System.checkBuilding_eq_ok_iff.mpr hphase)

theorem run_wire {index : Value} {found : Nat} (slot : Nat) (hnames : system.Names index found) :
    (wire slot index).run.run system = (.ok found, system) :=
  congrArg (·, system) (System.resolve_eq_ok_iff.mpr hnames)

theorem run_read (hphase : system.phase = .building) {index : Value} {found : Nat}
    (hnames : system.Names index found) :
    (read index : Builder F _).run.run system = (.ok ⟨found, system.stored found⟩, system) := by
  change (system.read index, system) = _
  rw [System.read, if_neg (by rw [hphase]; decide), System.resolve_eq_ok_iff.mpr hnames]
  rfl

theorem run_newVariable_of_toElement (hphase : system.phase = .building) {given : Value}
    {value : Element F} (hgiven : given.toElement F = .ok value) :
    (newVariable given).run.run system = (.ok system.numVars, system.grow [value] []) := by
  rw [newVariable, run_bind_ok (run_ensureBuilding hphase), run_bind_ok (run_element hgiven _)]
  exact run_bind_ok (run_emit (Emit.run_addVariable value system))

theorem run_insertBooleanGate (hphase : system.phase = .building) {index : Value} {found : Nat}
    (hnames : system.Names index found) :
    (insertBooleanGate index).run.run system = (.ok ⟨found⟩, system.grow [] [.boolean found]) := by
  rw [insertBooleanGate, run_bind_ok (run_ensureBuilding hphase), run_bind_ok (run_wire 0 hnames)]
  exact run_bind_ok (run_emit (Emit.run_addRow _ _))

/-- A gadget that defines a variable by a formula of two others does so. -/
theorem run_combine (hphase : system.phase = .building) {left right : Value} {l r : Nat}
    (hleft : system.Names left l) (hright : system.Names right r)
    {gadget : Variable F → Variable F → Emit F (Variable F)} {formula : Formula F}
    (hgadget : (gadget ⟨l, system.stored l⟩ ⟨r, system.stored r⟩).run system =
      (system.output formula, system.define formula)) :
    (combine gadget left right).run.run system =
      (.ok system.numVars, system.define formula) := by
  rw [combine, run_bind_ok (run_read hphase hleft), run_bind_ok (run_read hphase hright),
    run_bind_ok (run_ensureBuilding hphase)]
  exact run_bind_ok (run_emit hgadget)

theorem run_add (hphase : system.phase = .building) {l r : Nat} (hleft : l < system.numVars)
    (hright : r < system.numVars) :
    (add (.ofNat l) (.ofNat r)).run.run system =
      (.ok system.numVars, system.define (.sum l r)) :=
  run_combine hphase (System.names_ofNat hleft) (System.names_ofNat hright)
    (Emit.run_sum ⟨hleft, rfl⟩ ⟨hright, rfl⟩)

theorem run_mul (hphase : system.phase = .building) {l r : Nat} (hleft : l < system.numVars)
    (hright : r < system.numVars) :
    (mul (.ofNat l) (.ofNat r)).run.run system =
      (.ok system.numVars, system.define (.product l r)) :=
  run_combine hphase (System.names_ofNat hleft) (System.names_ofNat hright)
    (Emit.run_product ⟨hleft, rfl⟩ ⟨hright, rfl⟩)

theorem run_linearCombine (hphase : system.phase = .building)
    {inputs q1 q2 q3 q4 w1 w2 w3 w4 : Value} {e1 e2 e3 e4 : Element F} {f1 f2 f3 f4 : Nat}
    (hinputs : inputs.entries = .ok [w1, w2, w3, w4])
    (h1 : q1.toElement F = .ok e1) (h2 : q2.toElement F = .ok e2)
    (h3 : q3.toElement F = .ok e3) (h4 : q4.toElement F = .ok e4)
    (hfound : List.Forall₂ system.Names [w1, w2, w3, w4] [f1, f2, f3, f4]) :
    (linearCombine inputs q1 q2 q3 q4).run.run system =
      (.ok system.numVars, system.define (.linear f1 f2 f3 f4 e1 e2 e3 e4)) := by
  obtain _ | ⟨hw1, _ | ⟨hw2, _ | ⟨hw3, _ | ⟨hw4, -⟩⟩⟩⟩ := hfound
  have hstored : ∀ {index : Value} {found : Nat}, system.Names index found →
      (⟨found, system.stored found⟩ : Variable F).In system :=
    fun hnames => ⟨hnames.2, rfl⟩
  rw [linearCombine, run_bind_ok (run_entries hinputs _)]
  simp only
  rw [run_bind_ok (run_element h1 _), run_bind_ok (run_element h2 _), run_bind_ok (run_element h3 _),
    run_bind_ok (run_element h4 _), run_bind_ok (run_read hphase hw1),
    run_bind_ok (run_read hphase hw2), run_bind_ok (run_read hphase hw3),
    run_bind_ok (run_read hphase hw4), run_bind_ok (run_ensureBuilding hphase)]
  exact run_bind_ok (run_emit (Emit.run_linearCombination e1 e2 e3 e4 (hstored hw1) (hstored hw2)
    (hstored hw3) (hstored hw4)))

/-- A range check is only refused if there are too many digits for a list. -/
theorem run_rangeCheck (hphase : system.phase = .building) {index count : Value}
    {checked number : Nat} (hnames : system.Names index checked)
    (hcount : count.toNumber = .ok (number : Int)) (htwo : 2 ≤ number) :
    (rangeCheck index count).run.run system =
      if CanExtend (number - (8 * F.byteLength : Nat)) then
        (.ok ((List.range' system.numVars number).map .mk), system.addDigits checked number)
      else (.error (extensionRefusal (number - (8 * F.byteLength : Nat))), system) := by
  have hbelow : (Checked.ofExcept (count.isBelow 2) : Builder F Bool).run.run system =
      (.ok false, system) := by
    rw [isBelow_of_toNumber 2 hcount, decide_eq_false (by omega)]
    rfl
  have hnumber : (Checked.ofExcept count.toNumber : Builder F Int).run.run system =
      (.ok (number : Int), system) :=
    congrArg (·, system) hcount
  rw [rangeCheck, run_bind_ok hbelow]
  simp only [Bool.false_eq_true, if_false]
  rw [run_bind_ok (run_read hphase hnames), run_bind_ok hnumber, Element.toBits_eq,
    Element.bits_eq_digits]
  split
  · exact (run_bind_ok (run_ensureBuilding hphase)).trans
      (run_emit (Emit.run_binaryDigits checked number))
  · rfl

theorem run_insertConstantGate (hphase : system.phase = .building) {index constant : Value}
    {found : Nat} {value : Element F} (hconstant : constant.toElement F = .ok value)
    (hnames : system.Names index found) :
    (insertConstantGate index constant).run.run system =
      (.ok system.size, system.grow [] [.constant found value]) := by
  rw [insertConstantGate, run_bind_ok (run_element hconstant _),
    run_bind_ok (run_ensureBuilding hphase), run_bind_ok (run_wire 0 hnames)]
  exact run_emit (Emit.run_addRow _ _)

theorem run_preparePublicInput (hphase : system.phase = .building) {index : Value} {found : Nat}
    (hnames : system.Names index found) :
    (preparePublicInput index).run.run system = (.ok system.size, system.bindPublic found) := by
  rw [preparePublicInput, run_bind_ok (run_ensureBuilding hphase), run_bind_ok (run_wire 0 hnames),
    run_bind_ok (run_emit (Emit.run_addRow (.constant found 0) system))]
  rfl

/-- Where there is a variable, padding adds none. -/
theorem run_pad (hphase : system.phase ≠ .proving) (hnumVars : system.numVars ≠ 0) :
    (pad : Builder F Unit).run.run system = (.ok (), system.padded) := by
  rw [pad, run_bind_ok (run_get system)]
  simp only [if_neg hphase]
  rw [run_bind_ok (run_get system)]
  simp only [if_neg hnumVars]
  rw [System.padded, System.inhabited_of_ne_zero hnumVars, System.grow, List.append_nil]
  rfl

end Builder

end Plonkish
