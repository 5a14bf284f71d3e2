import Plonkish.Proofs.Gate.Relation
import Plonkish.System.Builder

/-!
# Growth of a system

A system grows by variables and rows at its end.  What a witness has to satisfy are
the gates of the system, the rows that take no public input; growth adds to the
gates and changes none of them.  The variables reserved for zero and one are added
by the same kind of growth when they are first needed.
-/

namespace Plonkish

variable {F : BaseField}

/-- The constants for which a system reserves a variable. -/
inductive Reserved where
  | zero
  | one
  deriving DecidableEq

def Reserved.value (F : BaseField) : Reserved → Element F
  | zero => 0
  | one => 1

namespace System

/-- The stored value of the variable with the given index. -/
def stored (system : System F) (index : Nat) : Element F :=
  system.witness.getD index 0

/-- The rows that take no public input. -/
def gates (system : System F) : List (Row F) :=
  (system.rows.zipIdx.filter fun place => place.2 ∉ system.bindings.map (·.row)).map Prod.fst

/-- An assignment of elements to variables under which every gate holds. -/
def Satisfied (system : System F) (assigned : Nat → Element F) : Prop :=
  ∀ row ∈ system.gates, row.Holds assigned

/-- The stored values satisfy the system. -/
def Honest (system : System F) : Prop :=
  system.Satisfied system.stored

/-- The system with variables of the given values and with the given rows at its end. -/
def grow (system : System F) (values : List (Element F)) (rows : List (Row F)) : System F :=
  { system with
    rows := system.rows ++ rows
    numVars := system.numVars + values.length
    witness := system.witness ++ values }

/-- The system with a row at its end that takes a public input for a variable. -/
def bindPublic (system : System F) (index : Nat) : System F :=
  { system.grow [] [.constant index 0] with
    bindings := system.bindings ++ [⟨system.size, index⟩] }

/-- The variable reserved for a constant, if there is one. -/
def reserved? (system : System F) : Reserved → Option Nat
  | .zero => system.zeroVar?
  | .one => system.oneVar?

/-- The system that remembers a variable for a constant. -/
def remember (system : System F) (index : Nat) : Reserved → System F
  | .zero => { system with zeroVar? := some index }
  | .one => { system with oneVar? := some index }

/-- The variable that is reserved for a constant after the system was asked for it. -/
def reservedIndex (system : System F) (constant : Reserved) : Nat :=
  (system.reserved? constant).getD system.numVars

/-- The system after it was asked for the variable reserved for a constant. -/
def reserve (system : System F) (constant : Reserved) : System F :=
  match system.reserved? constant with
  | some _ => system
  | none =>
    (system.grow [constant.value F] [.constant system.numVars (constant.value F)]).remember
      system.numVars constant

/-! ### Fields that growth leaves alone -/

@[simp]
theorem numVars_grow (system : System F) (values : List (Element F)) (rows : List (Row F)) :
    (system.grow values rows).numVars = system.numVars + values.length := rfl

@[simp]
theorem phase_grow (system : System F) (values : List (Element F)) (rows : List (Row F)) :
    (system.grow values rows).phase = system.phase := rfl

@[simp]
theorem bindings_grow (system : System F) (values : List (Element F)) (rows : List (Row F)) :
    (system.grow values rows).bindings = system.bindings := rfl

@[simp]
theorem rows_grow (system : System F) (values : List (Element F)) (rows : List (Row F)) :
    (system.grow values rows).rows = system.rows ++ rows := rfl

@[simp]
theorem reserved?_grow (system : System F) (values : List (Element F)) (rows : List (Row F))
    (constant : Reserved) :
    (system.grow values rows).reserved? constant = system.reserved? constant := by
  cases constant <;> rfl

theorem grow_grow (system : System F) (values values' : List (Element F))
    (rows rows' : List (Row F)) :
    (system.grow values rows).grow values' rows' =
      system.grow (values ++ values') (rows ++ rows') := by
  simp only [grow, List.append_assoc, List.length_append, Nat.add_assoc]

theorem grow_nil (system : System F) : system.grow [] [] = system := by
  simp only [grow, List.append_nil, List.length_nil, Nat.add_zero]

@[simp]
theorem phase_remember (system : System F) (index : Nat) (constant : Reserved) :
    (system.remember index constant).phase = system.phase := by
  cases constant <;> rfl

@[simp]
theorem rows_remember (system : System F) (index : Nat) (constant : Reserved) :
    (system.remember index constant).rows = system.rows := by
  cases constant <;> rfl

@[simp]
theorem bindings_remember (system : System F) (index : Nat) (constant : Reserved) :
    (system.remember index constant).bindings = system.bindings := by
  cases constant <;> rfl

@[simp]
theorem numVars_remember (system : System F) (index : Nat) (constant : Reserved) :
    (system.remember index constant).numVars = system.numVars := by
  cases constant <;> rfl

@[simp]
theorem witness_remember (system : System F) (index : Nat) (constant : Reserved) :
    (system.remember index constant).witness = system.witness := by
  cases constant <;> rfl

theorem reserved?_remember (system : System F) (index : Nat) (constant other : Reserved) :
    (system.remember index constant).reserved? other =
      if other = constant then some index else system.reserved? other := by
  cases constant <;> cases other <;> rfl

/-! ### Asking for a reserved variable -/

section Reserve

variable {system : System F} {constant : Reserved} {index : Nat}

theorem reserve_of_some (hcached : system.reserved? constant = some index) :
    system.reserve constant = system := by
  rw [reserve, hcached]

theorem reservedIndex_of_some (hcached : system.reserved? constant = some index) :
    system.reservedIndex constant = index := by
  rw [reservedIndex, hcached, Option.getD_some]

theorem reserve_of_none (hfresh : system.reserved? constant = none) :
    system.reserve constant =
      (system.grow [constant.value F] [.constant system.numVars (constant.value F)]).remember
        system.numVars constant := by
  rw [reserve, hfresh]

theorem reservedIndex_of_none (hfresh : system.reserved? constant = none) :
    system.reservedIndex constant = system.numVars := by
  rw [reservedIndex, hfresh, Option.getD_none]

end Reserve

@[simp]
theorem phase_reserve (system : System F) (constant : Reserved) :
    (system.reserve constant).phase = system.phase := by
  cases hreserved : system.reserved? constant with
  | none => rw [reserve_of_none hreserved, phase_remember, phase_grow]
  | some index => rw [reserve_of_some hreserved]

@[simp]
theorem bindings_reserve (system : System F) (constant : Reserved) :
    (system.reserve constant).bindings = system.bindings := by
  cases hreserved : system.reserved? constant with
  | none => rw [reserve_of_none hreserved, bindings_remember, bindings_grow]
  | some index => rw [reserve_of_some hreserved]

theorem numVars_le_reserve (system : System F) (constant : Reserved) :
    system.numVars ≤ (system.reserve constant).numVars := by
  cases hreserved : system.reserved? constant with
  | none =>
      rw [reserve_of_none hreserved, numVars_remember]
      exact Nat.le_add_right _ _
  | some index => rw [reserve_of_some hreserved]

theorem reserved?_reserve_self (system : System F) (constant : Reserved) :
    (system.reserve constant).reserved? constant = some (system.reservedIndex constant) := by
  cases hreserved : system.reserved? constant with
  | none =>
      rw [reserve_of_none hreserved, reservedIndex_of_none hreserved, reserved?_remember,
        if_pos rfl]
  | some index => rw [reserve_of_some hreserved, reservedIndex_of_some hreserved, hreserved]

theorem reserved?_reserve_of_ne (system : System F) {constant other : Reserved}
    (hother : other ≠ constant) :
    (system.reserve constant).reserved? other = system.reserved? other := by
  cases hreserved : system.reserved? constant with
  | some index => rw [reserve_of_some hreserved]
  | none => rw [reserve_of_none hreserved, reserved?_remember, if_neg hother, reserved?_grow]

/-- The only variable that a reservation can add is the reserved one. -/
theorem eq_reservedIndex {system : System F} {constant : Reserved} {index : Nat}
    (hnew : system.numVars ≤ index) (hindex : index < (system.reserve constant).numVars) :
    index = system.reservedIndex constant := by
  cases hreserved : system.reserved? constant with
  | none =>
      rw [reserve_of_none hreserved, numVars_remember] at hindex
      rw [reservedIndex_of_none hreserved]
      exact Nat.le_antisymm (Nat.lt_succ_iff.mp hindex) hnew
  | some cached =>
      rw [reserve_of_some hreserved] at hindex
      exact absurd hindex (Nat.not_lt.mpr hnew)

/-! ### Gates -/

theorem gates_remember (system : System F) (index : Nat) (constant : Reserved) :
    (system.remember index constant).gates = system.gates := by
  rw [gates, rows_remember, bindings_remember, gates]

/-- A row that takes a public input is no gate. -/
theorem gates_bindPublic (system : System F) (index : Nat) :
    (system.bindPublic index).gates = system.gates := by
  have hbindings : (system.bindPublic index).bindings.map (·.row) =
      system.bindings.map (·.row) ++ [system.rows.length] := by
    rw [bindPublic, List.map_append, List.map_singleton, size]
  have hold : ∀ place ∈ system.rows.zipIdx,
      decide (place.2 ∉ system.bindings.map (·.row) ++ [system.rows.length]) =
        decide (place.2 ∉ system.bindings.map (·.row)) := by
    intro place hplace
    have hlt : place.2 < system.rows.length := by
      simpa using List.snd_lt_of_mem_zipIdx hplace
    rw [decide_eq_decide, List.mem_append, List.mem_singleton, or_iff_left hlt.ne]
  have hnew : ([Row.constant index (0 : Element F)].zipIdx system.rows.length).filter
      (fun place => place.2 ∉ system.bindings.map (·.row) ++ [system.rows.length]) = [] := by
    simp
  rw [gates, hbindings, bindPublic, rows_grow, List.zipIdx_append, List.filter_append,
    List.filter_congr hold, Nat.zero_add, hnew, List.append_nil, gates]

theorem satisfied_bindPublic (system : System F) (index : Nat) (assigned : Nat → Element F) :
    (system.bindPublic index).Satisfied assigned ↔ system.Satisfied assigned := by
  rw [Satisfied, gates_bindPublic, Satisfied]

/-! ### Stored values -/

theorem length_witness_grow {system : System F}
    (hlength : system.witness.length = system.numVars) (values : List (Element F))
    (rows : List (Row F)) :
    (system.grow values rows).witness.length = (system.grow values rows).numVars := by
  rw [grow, List.length_append, hlength]

theorem stored_grow_of_lt {system : System F} (hlength : system.witness.length = system.numVars)
    (values : List (Element F)) (rows : List (Row F)) {index : Nat}
    (hindex : index < system.numVars) :
    (system.grow values rows).stored index = system.stored index := by
  simp only [stored, grow, List.getD_eq_getElem?_getD]
  rw [List.getElem?_append_left (hlength.symm ▸ hindex)]

theorem stored_grow_add {system : System F} (hlength : system.witness.length = system.numVars)
    (values : List (Element F)) (rows : List (Row F)) (position : Nat) :
    (system.grow values rows).stored (system.numVars + position) = values.getD position 0 := by
  simp only [stored, grow, List.getD_eq_getElem?_getD, ← hlength]
  rw [List.getElem?_append_right (Nat.le_add_right _ _), Nat.add_sub_cancel_left]

theorem map_stored_grow {system : System F} (hlength : system.witness.length = system.numVars)
    (values : List (Element F)) (rows : List (Row F)) :
    (List.range' system.numVars values.length).map (system.grow values rows).stored = values := by
  apply List.ext_getElem
  · rw [List.length_map, List.length_range']
  · intro position _ hposition
    rw [List.getElem_map, List.getElem_range', Nat.one_mul, stored_grow_add hlength,
      List.getD_eq_getElem?_getD, List.getElem?_eq_getElem hposition, Option.getD_some]

theorem stored_reserve_of_lt {system : System F}
    (hlength : system.witness.length = system.numVars) (constant : Reserved) {index : Nat}
    (hindex : index < system.numVars) :
    (system.reserve constant).stored index = system.stored index := by
  cases hreserved : system.reserved? constant with
  | none =>
      rw [reserve_of_none hreserved, stored, witness_remember]
      exact stored_grow_of_lt hlength _ _ hindex
  | some cached => rw [reserve_of_some hreserved]

/-- The later system has the variables of the earlier one, with the same stored values. -/
structure Extends (earlier later : System F) : Prop where
  numVars_le : earlier.numVars ≤ later.numVars
  stored_eq : ∀ index < earlier.numVars, later.stored index = earlier.stored index

namespace Extends

theorem trans {first second third : System F} (hfirst : first.Extends second)
    (hsecond : second.Extends third) : first.Extends third where
  numVars_le := hfirst.numVars_le.trans hsecond.numVars_le
  stored_eq index hindex := by
    calc third.stored index
        = second.stored index := hsecond.stored_eq index (hindex.trans_le hfirst.numVars_le)
      _ = first.stored index := hfirst.stored_eq index hindex

end Extends

theorem extends_grow {system : System F} (hlength : system.witness.length = system.numVars)
    (values : List (Element F)) (rows : List (Row F)) :
    system.Extends (system.grow values rows) where
  numVars_le := Nat.le_add_right _ _
  stored_eq _ hindex := stored_grow_of_lt hlength values rows hindex

theorem extends_reserve {system : System F} (hlength : system.witness.length = system.numVars)
    (constant : Reserved) : system.Extends (system.reserve constant) where
  numVars_le := system.numVars_le_reserve constant
  stored_eq _ hindex := stored_reserve_of_lt hlength constant hindex

end System

end Plonkish
