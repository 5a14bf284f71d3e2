import Plonkish.Proofs.System.Growth

/-!
# Well-formed systems

In a well-formed system every wire carries a variable of the system, every binding
names a constant row of its own, and the variables reserved for zero and one are
fixed by gates.  Growth keeps systems well formed, and it adds to what a witness has
to satisfy exactly what the new rows say.
-/

namespace Plonkish

variable {F : BaseField}

namespace System

/-- What holds of every system that is built by operations. -/
structure WellFormed (system : System F) : Prop where
  /-- The wires of every row carry variables of the system. -/
  wires_lt : ∀ row ∈ system.rows, ∀ index ∈ row.wires.toList, index < system.numVars
  /-- Bindings are in the order of their rows, of which no two are the same. -/
  bindings_sorted : system.bindings.Pairwise (·.row < ·.row)
  /-- The row of a binding is the constant zero for the bound variable. -/
  bound_row : ∀ binding ∈ system.bindings,
    system.rows[binding.row]? = some (.constant binding.boundVar 0)
  /-- A gate fixes the value of a reserved variable. -/
  reserved_gate : ∀ constant index, system.reserved? constant = some index →
    .constant index (constant.value F) ∈ system.gates
  /-- There is a stored value for every variable until they are taken out. -/
  length_witness : system.phase ≠ .proving → system.witness.length = system.numVars
  /-- The stored value of a reserved variable is its constant. -/
  stored_reserved : system.phase ≠ .proving → ∀ constant index,
    system.reserved? constant = some index → system.stored index = constant.value F

theorem mem_rows_of_mem_gates {system : System F} {row : Row F} (hrow : row ∈ system.gates) :
    row ∈ system.rows := by
  obtain ⟨place, hplace, rfl⟩ := List.mem_map.mp hrow
  exact List.fst_mem_of_mem_zipIdx (List.mem_of_mem_filter hplace)

namespace WellFormed

variable {system : System F}

theorem bound_lt (hsystem : system.WellFormed) {binding : Binding}
    (hbinding : binding ∈ system.bindings) : binding.row < system.rows.length := by
  obtain ⟨hlt, _⟩ := List.getElem?_eq_some_iff.mp (hsystem.bound_row binding hbinding)
  exact hlt

theorem boundVar_lt (hsystem : system.WellFormed) {binding : Binding}
    (hbinding : binding ∈ system.bindings) : binding.boundVar < system.numVars :=
  hsystem.wires_lt _ (List.mem_of_getElem? (hsystem.bound_row binding hbinding)) _
    List.mem_cons_self

theorem reserved_lt (hsystem : system.WellFormed) {constant : Reserved} {index : Nat}
    (hreserved : system.reserved? constant = some index) : index < system.numVars :=
  hsystem.wires_lt _ (mem_rows_of_mem_gates (hsystem.reserved_gate constant index hreserved)) _
    List.mem_cons_self

theorem reservedIndex_lt (hsystem : system.WellFormed) (constant : Reserved) :
    system.reservedIndex constant < (system.reserve constant).numVars := by
  cases hreserved : system.reserved? constant with
  | none =>
      rw [reserve_of_none hreserved, reservedIndex_of_none hreserved, numVars_remember]
      exact Nat.lt_succ_self _
  | some index =>
      rw [reserve_of_some hreserved, reservedIndex_of_some hreserved]
      exact hsystem.reserved_lt hreserved

/-! ### What has to be satisfied -/

theorem gates_grow (hsystem : system.WellFormed) (values : List (Element F))
    (rows : List (Row F)) : (system.grow values rows).gates = system.gates ++ rows := by
  have hunbound : ∀ place ∈ rows.zipIdx system.rows.length,
      decide (place.2 ∉ system.bindings.map (·.row)) = true := by
    intro place hplace
    rw [decide_eq_true_eq]
    intro hmem
    obtain ⟨binding, hbinding, heq⟩ := List.mem_map.mp hmem
    have hlt := hsystem.bound_lt hbinding
    have hle := List.le_snd_of_mem_zipIdx hplace
    omega
  rw [gates, rows_grow, bindings_grow, List.zipIdx_append, List.filter_append, List.map_append,
    Nat.zero_add, List.filter_eq_self.mpr hunbound, List.zipIdx_map_fst, gates]

theorem satisfied_grow (hsystem : system.WellFormed) (values : List (Element F))
    (rows : List (Row F)) (assigned : Nat → Element F) :
    (system.grow values rows).Satisfied assigned ↔
      system.Satisfied assigned ∧ ∀ row ∈ rows, row.Holds assigned := by
  rw [Satisfied, hsystem.gates_grow, List.forall_mem_append, Satisfied]

/-- What has to be satisfied depends on the variables of the system only. -/
theorem satisfied_congr (hsystem : system.WellFormed) {left right : Nat → Element F}
    (hagree : ∀ index < system.numVars, left index = right index) :
    system.Satisfied left ↔ system.Satisfied right := by
  apply forall₂_congr
  intro row hrow
  apply Row.holds_congr
  intro index hindex
  exact hagree index (hsystem.wires_lt row (mem_rows_of_mem_gates hrow) index hindex)

theorem assigned_reserved (hsystem : system.WellFormed) {assigned : Nat → Element F}
    (hassigned : system.Satisfied assigned) {constant : Reserved} {index : Nat}
    (hreserved : system.reserved? constant = some index) :
    assigned index = constant.value F :=
  (Row.holds_constant _ _ _).mp (hassigned _ (hsystem.reserved_gate constant index hreserved))

/-- Asking for a reserved variable adds that it has its constant as value, whether
the variable was there before or not. -/
theorem satisfied_reserve (hsystem : system.WellFormed) (constant : Reserved)
    (assigned : Nat → Element F) :
    (system.reserve constant).Satisfied assigned ↔
      system.Satisfied assigned ∧
        assigned (system.reservedIndex constant) = constant.value F := by
  cases hreserved : system.reserved? constant with
  | none =>
      rw [reserve_of_none hreserved, reservedIndex_of_none hreserved, Satisfied, gates_remember,
        ← Satisfied, hsystem.satisfied_grow, List.forall_mem_singleton, Row.holds_constant]
  | some index =>
      rw [reserve_of_some hreserved, reservedIndex_of_some hreserved,
        and_iff_left_of_imp fun hassigned => hsystem.assigned_reserved hassigned hreserved]

/-! ### Growth keeps systems well formed -/

theorem grow (hsystem : system.WellFormed) (values : List (Element F)) {rows : List (Row F)}
    (hrows : ∀ row ∈ rows, ∀ index ∈ row.wires.toList,
      index < system.numVars + values.length) :
    (system.grow values rows).WellFormed where
  wires_lt := by
    intro row hrow index hindex
    rcases List.mem_append.mp hrow with hold | hnew
    · exact Nat.lt_add_right _ (hsystem.wires_lt row hold index hindex)
    · exact hrows row hnew index hindex
  bindings_sorted := hsystem.bindings_sorted
  bound_row := by
    intro binding hbinding
    rw [rows_grow, List.getElem?_append_left (hsystem.bound_lt hbinding)]
    exact hsystem.bound_row binding hbinding
  reserved_gate := by
    intro constant index hreserved
    rw [reserved?_grow] at hreserved
    rw [hsystem.gates_grow]
    exact List.mem_append_left _ (hsystem.reserved_gate constant index hreserved)
  length_witness hphase := length_witness_grow (hsystem.length_witness hphase) values rows
  stored_reserved := by
    intro hphase constant index hreserved
    rw [reserved?_grow] at hreserved
    rw [stored_grow_of_lt (hsystem.length_witness hphase) _ _ (hsystem.reserved_lt hreserved)]
    exact hsystem.stored_reserved hphase constant index hreserved

theorem grow_values (hsystem : system.WellFormed) (values : List (Element F)) :
    (system.grow values []).WellFormed :=
  hsystem.grow values (by simp)

theorem grow_row (hsystem : system.WellFormed) {row : Row F}
    (hrow : ∀ index ∈ row.wires.toList, index < system.numVars) :
    (system.grow [] [row]).WellFormed :=
  hsystem.grow [] (by simpa using hrow)

/-- A variable may be remembered for a constant that a gate and the stored value agree on. -/
theorem remember (hsystem : system.WellFormed) {constant : Reserved} {index : Nat}
    (hgate : .constant index (constant.value F) ∈ system.gates)
    (hstored : system.phase ≠ .proving → system.stored index = constant.value F) :
    (system.remember index constant).WellFormed where
  wires_lt := by simpa using hsystem.wires_lt
  bindings_sorted := by simpa using hsystem.bindings_sorted
  bound_row := by simpa using hsystem.bound_row
  reserved_gate := by
    intro other found hreserved
    rw [reserved?_remember] at hreserved
    rw [gates_remember]
    by_cases hother : other = constant
    · rw [if_pos hother, Option.some.injEq] at hreserved
      rwa [hother, ← hreserved]
    · rw [if_neg hother] at hreserved
      exact hsystem.reserved_gate other found hreserved
  length_witness := by simpa using hsystem.length_witness
  stored_reserved := by
    intro hphase other found hreserved
    rw [phase_remember] at hphase
    rw [reserved?_remember] at hreserved
    rw [stored, witness_remember, ← stored]
    by_cases hother : other = constant
    · rw [if_pos hother, Option.some.injEq] at hreserved
      rw [hother, ← hreserved, hstored hphase]
    · rw [if_neg hother] at hreserved
      exact hsystem.stored_reserved hphase other found hreserved

theorem reserve (hsystem : system.WellFormed) (constant : Reserved) :
    (system.reserve constant).WellFormed := by
  cases hreserved : system.reserved? constant with
  | none =>
      have hgrown : (system.grow [constant.value F]
          [.constant system.numVars (constant.value F)]).WellFormed :=
        hsystem.grow _ (by simp [Row.constant, Wires.replicate, Wires.toList])
      rw [reserve_of_none hreserved]
      apply hgrown.remember
      · rw [hsystem.gates_grow]
        exact List.mem_append_right _ List.mem_cons_self
      · intro hphase
        exact stored_grow_add (hsystem.length_witness hphase) _ _ 0
  | some index =>
      rw [reserve_of_some hreserved]
      exact hsystem

theorem bindPublic (hsystem : system.WellFormed) {index : Nat} (hindex : index < system.numVars) :
    (system.bindPublic index).WellFormed := by
  have hgrown : (system.grow [] [.constant index 0]).WellFormed :=
    hsystem.grow_row (by simpa [Row.constant, Wires.replicate, Wires.toList] using hindex)
  exact {
    wires_lt := hgrown.wires_lt
    bindings_sorted := by
      rw [System.bindPublic, List.pairwise_append]
      refine ⟨hsystem.bindings_sorted, List.pairwise_singleton _ _, ?_⟩
      intro earlier hearlier later hlater
      rw [List.mem_singleton.mp hlater]
      exact hsystem.bound_lt hearlier
    bound_row := by
      intro binding hbinding
      rcases List.mem_append.mp hbinding with hold | hnew
      · exact hgrown.bound_row binding hold
      · rw [List.mem_singleton.mp hnew]
        exact List.getElem?_concat_length
    reserved_gate := by
      intro constant reserved hreserved
      rw [gates_bindPublic]
      cases constant <;> exact hsystem.reserved_gate _ reserved hreserved
    length_witness := hgrown.length_witness
    stored_reserved := by
      intro hphase constant reserved hreserved
      cases constant <;> exact hgrown.stored_reserved hphase _ reserved hreserved }

/-! ### Stored values that satisfy -/

theorem honest_grow (hsystem : system.WellFormed) (hphase : system.phase ≠ .proving)
    (values : List (Element F)) (rows : List (Row F)) :
    (system.grow values rows).Honest ↔
      system.Honest ∧ ∀ row ∈ rows, row.Holds (system.grow values rows).stored := by
  have hold : ∀ index < system.numVars,
      (system.grow values rows).stored index = system.stored index :=
    fun _ hindex => stored_grow_of_lt (hsystem.length_witness hphase) values rows hindex
  rw [Honest, hsystem.satisfied_grow, hsystem.satisfied_congr hold, Honest]

theorem honest_grow_values (hsystem : system.WellFormed) (hphase : system.phase ≠ .proving)
    (values : List (Element F)) : (system.grow values []).Honest ↔ system.Honest := by
  rw [hsystem.honest_grow hphase, and_iff_left (List.forall_mem_nil _)]

theorem honest_grow_row (hsystem : system.WellFormed) (hphase : system.phase ≠ .proving)
    (row : Row F) : (system.grow [] [row]).Honest ↔ system.Honest ∧ row.Holds system.stored := by
  have hstored : (system.grow [] [row]).stored = system.stored := by
    funext index
    rw [stored, System.grow, List.append_nil, stored]
  rw [hsystem.honest_grow hphase, List.forall_mem_singleton, hstored]

/-- Reserved variables are stored with their constants, so they never spoil the
stored values. -/
theorem honest_reserve (hsystem : system.WellFormed) (hphase : system.phase ≠ .proving)
    (constant : Reserved) : (system.reserve constant).Honest ↔ system.Honest := by
  have hold : ∀ index < system.numVars,
      (system.reserve constant).stored index = system.stored index :=
    fun _ hindex => stored_reserve_of_lt (hsystem.length_witness hphase) constant hindex
  have hconstant := (hsystem.reserve constant).stored_reserved
    (by rwa [phase_reserve]) constant _ (system.reserved?_reserve_self constant)
  rw [Honest, hsystem.satisfied_reserve, hsystem.satisfied_congr hold,
    and_iff_left hconstant, Honest]

theorem honest_bindPublic (index : Nat) :
    (system.bindPublic index).Honest ↔ system.Honest := by
  have hstored : (system.bindPublic index).stored = system.stored := by
    funext other
    rw [stored, System.bindPublic, System.grow, List.append_nil, stored]
  rw [Honest, satisfied_bindPublic, hstored, Honest]

end WellFormed

end System

end Plonkish
