import Plonkish.Proofs.Gate.Broadcast

/-!
# The gate equation as a weighted sum

The gate equation is linear in the selectors, and the multipliers are the factors that
the selectors have in it.  The sum of the selectors, each times its multiplier, and the
public value uses the same operands as the gate equation, though it combines them in
another order.  So it is refused where the gate equation is, and where both have values they
extend as far and agree row by row.
-/

namespace Plonkish

variable {F : BaseField}

namespace Operand

variable {all : List (Operand F)}

theorem eq_of_atRow_eq {left right : Operand F} (hextent : left.extent = right.extent)
    (hrows : ∀ row, left.extent.Covers row → left.atRow row = right.atRow row) :
    left = right := by
  cases left with
  | single value =>
      cases right with
      | single other => exact congrArg single (hrows 0 trivial)
      | column others => cases hextent
  | column values =>
      cases right with
      | single other => cases hextent
      | column others =>
          refine congrArg column (List.ext_getElem (Extent.column.inj hextent) ?_)
          intro row hvalue hother
          have hrow := hrows row (.inr hvalue)
          rwa [atRow_of_getElem? (List.getElem?_eq_getElem hvalue),
            atRow_of_getElem? (List.getElem?_eq_getElem hother)] at hrow

theorem extent_ne_mismatched (operand : Operand F) : operand.extent ≠ .mismatched := by
  cases operand <;> nofun

/-- What is made of all operands is determined by its values at the rows. -/
theorem Gives.eq {entry : Nat → Element F} {first second : Except CircuitError (Operand F)}
    (hfirst : Gives all ⟨all, entry⟩ first) (hsecond : Gives all ⟨all, entry⟩ second) :
    first = second := by
  cases hfirst with
  | mismatched hmismatched =>
      cases hsecond with
      | mismatched _ => rfl
      | ok hright =>
          exact absurd (hright.extent_eq.trans hmismatched) (extent_ne_mismatched _)
  | ok hleft =>
      cases hsecond with
      | mismatched hmismatched =>
          exact absurd (hleft.extent_eq.trans hmismatched) (extent_ne_mismatched _)
      | ok hright =>
          have hextent := hleft.extent_eq.trans hright.extent_eq.symm
          refine congrArg Except.ok (eq_of_atRow_eq hextent fun row hcovers => ?_)
          rw [hleft.atRow_eq row hcovers, hright.atRow_eq row (hextent ▸ hcovers)]

/-- Each entry of a list gives a term, or all of them are refused together. -/
theorem Gives.mapM {α : Type} {step : α → Except CircuitError (Operand F)} {entries : List α}
    {terms : List (Term F)} {result : Term F}
    {next : List (Operand F) → Except CircuitError (Operand F)}
    (hentries : List.Forall₂ (fun term entry => Gives all term (step entry)) terms entries)
    (hnext : ∀ operands, List.Forall₂ (Tabulates all) terms operands →
      Gives all result (next operands)) :
    Gives all result (entries.mapM step >>= next) := by
  induction hentries generalizing next with
  | nil => exact hnext [] .nil
  | cons hentry _ ih =>
      rw [List.mapM_cons, bind_assoc]
      refine hentry.bind fun operand hoperand => ?_
      rw [bind_assoc]
      refine ih fun operands hoperands => ?_
      exact hnext (operand :: operands) (.cons hoperand hoperands)

end Operand

namespace Gate

open Operand

/-- The products of selectors with their multipliers. -/
def weighted (selectors : List (Operand F)) (multipliers : Selectors (Operand F)) :
    Except CircuitError (List (Operand F)) :=
  (selectors.zip multipliers.toList).mapM fun (selector, multiplier) => selector.mul multiplier

/-- Each term of the gate equation is a selector times its multiplier. -/
theorem residual_eq_weighted (w : Wires (Element F)) (q : Selectors (Element F))
    (publicValue : Element F) :
    residual w q publicValue = publicValue + q.q1 * w.w1 + q.q2 * w.w2 + q.q3 * w.w3 +
      q.q4 * w.w4 + q.qm1 * (w.w1 * w.w2) + q.qm2 * (w.w3 * w.w4) + q.qc * w.w1.pow 0 +
      q.qecc * (w.w1 * w.w2 * w.w3 * w.w4 * w.wo) + q.qh1 * w.w1.pow 5 + q.qh2 * w.w2.pow 5 +
      q.qh3 * w.w3.pow 5 + q.qh4 * w.w4.pow 5 + q.qo * -w.wo := by
  rw [residual, Element.pow_eq w.w1 0, pow_zero]
  ring

variable (w : Wires (Operand F)) (q : Selectors (Operand F)) (publicValue : Operand F)

theorem gives_weighted :
    Gives (operands w q publicValue) ⟨operands w q publicValue, residualAt w q publicValue⟩ (do
      let factors ← multipliers w
      publicValue.addAll (← weighted q.toList factors)) := by
  have hresidual : residualAt w q publicValue = fun row => _ :=
    funext fun row => residual_eq_weighted _ _ _
  obtain ⟨all, hall⟩ : ∃ all, all = operands w q publicValue := ⟨_, rfl⟩
  have hleaf : ∀ operand ∈ operands w q publicValue, Tabulates all (.leaf operand) operand :=
    fun _ hmem => tabulates_leaf (hall ▸ hmem)
  obtain ⟨⟨hw1, hw2, hw3, hw4, hwo⟩, ⟨hq1, hq2, hq3, hq4, hqm1, hqm2, hqc, hqecc, hqh1, hqh2, hqh3,
    hqh4, hqo⟩, hpublic⟩ := (forall_mem_operands_iff w q publicValue).mp hleaf
  rw [← hall, hresidual, multipliers, bind_assoc]
  refine (hw1.combine hw2 _).bind fun _ h12 => ?_
  rw [bind_assoc]
  refine (hw3.combine hw4 _).bind fun _ h34 => ?_
  rw [bind_assoc]
  refine (hw1.foldlM _ (.cons hw2 (.cons hw3 (.cons hw4 (.cons hwo .nil))))).bind
    fun _ hwires => ?_
  rw [pure_bind]
  refine Gives.mapM (.cons (hq1.combine hw1 _) <| .cons (hq2.combine hw2 _) <|
    .cons (hq3.combine hw3 _) <| .cons (hq4.combine hw4 _) <| .cons (hqm1.combine h12 _) <|
    .cons (hqm2.combine h34 _) <| .cons (hqc.combine (hw1.pow 0) _) <|
    .cons (hqecc.combine hwires _) <| .cons (hqh1.combine (hw1.pow 5) _) <|
    .cons (hqh2.combine (hw2.pow 5) _) <| .cons (hqh3.combine (hw3.pow 5) _) <|
    .cons (hqh4.combine (hw4.pow 5) _) <| .cons (hqo.combine (hwo.map (- ·)) _) .nil)
    fun _ hproducts => ?_
  refine (hpublic.foldlM _ hproducts).complete ?_
  simp only [hall, operands, Wires.toList, Selectors.toList, Term.combine, Term.leaf, Term.pow,
    Term.map, List.foldl_cons, List.foldl_nil, List.cons_append, List.nil_append,
    List.cons_subset, List.mem_cons, true_or, or_true, List.nil_subset, and_self]

/-- On operands of any extents, the gate equation and the weighted sum are the same: they
have the same value, or both are refused. -/
theorem evaluate_eq_weighted :
    evaluate w q publicValue = (do
      let factors ← multipliers w
      publicValue.addAll (← weighted q.toList factors)) :=
  (gives_evaluate w q publicValue).eq (gives_weighted w q publicValue)

theorem evaluateLists_eq_ok_iff {wires selectors : List (Operand F)}
    {publicValue result : Operand F} :
    evaluateLists wires selectors publicValue = .ok result ↔ ∃ w q,
      wires = Wires.toList w ∧ selectors = Selectors.toList q ∧
        evaluate w q publicValue = .ok result := by
  constructor
  · intro hresult
    rw [evaluateLists] at hresult
    split at hresult
    · next w q hw hq =>
      exact ⟨w, q, Wires.ofList?_eq_some_iff.mp hw, Selectors.ofList?_eq_some_iff.mp hq, hresult⟩
    · cases hresult
  · rintro ⟨w, q, rfl, rfl, hresult⟩
    exact hresult

/-- Where the gate equation has a value, the same wires have multipliers, each of which can be
combined with its selector, and the public value and the products add up to the value, a
single element or a column as it is. -/
theorem evaluateLists_eq_weighted_sum {wires selectors : List (Operand F)}
    {publicValue result : Operand F}
    (hresult : evaluateLists wires selectors publicValue = .ok result) :
    ∃ factors products, multipliersOfList wires = .ok factors ∧
      factors.toList.length = Selectors.count ∧ weighted selectors factors = .ok products ∧
      products.length = Selectors.count ∧ publicValue.addAll products = .ok result := by
  obtain ⟨w, q, rfl, rfl, hevaluate⟩ := evaluateLists_eq_ok_iff.mp hresult
  rw [evaluate_eq_weighted, bind_eq_ok_iff] at hevaluate
  obtain ⟨factors, hfactors, hsum⟩ := hevaluate
  obtain ⟨products, hproducts, htotal⟩ := bind_eq_ok_iff.mp hsum
  exact ⟨factors, products, hfactors, rfl, hproducts, length_of_mapM_eq_ok hproducts, htotal⟩

/-- Columns of three entries and of one meet single elements, and the third row has a fifth
power. -/
theorem evaluateLists_eq_weighted_sum_mixed :
    let wires : List (Operand .goldilocks) :=
      [.column [1, 0, .ofNat _ 2], .column [.ofNat _ 3], .single 1, .single 0, .single 1]
    let selectors : List (Operand .goldilocks) :=
      [.single 0, .single 0, .single 0, .single 0, .single 1, .single 0, .column [1], .single 0,
        .column [0, 0, 1], .single 0, .single 0, .single 0, .single 1]
    evaluateLists wires selectors (.single (.ofNat _ 7)) =
        .ok (.column [.ofNat _ 10, .ofNat _ 7, .ofNat _ 45]) ∧
      ∃ factors products, multipliersOfList wires = .ok factors ∧
        factors.qc = .column [1, 1, 1] ∧ weighted selectors factors = .ok products ∧
        (Operand.single (.ofNat _ 7)).addAll products =
          .ok (.column [.ofNat _ 10, .ofNat _ 7, .ofNat _ 45]) := by
  intro wires selectors
  have hresult : evaluateLists wires selectors (.single (.ofNat _ 7)) =
      .ok (.column [.ofNat _ 10, .ofNat _ 7, .ofNat _ 45]) := by
    decide +kernel
  obtain ⟨factors, products, hfactors, _, hproducts, _, htotal⟩ :=
    evaluateLists_eq_weighted_sum hresult
  refine ⟨hresult, factors, products, hfactors, ?_, hproducts, htotal⟩
  have hone : (multipliersOfList wires).toOption.map (·.qc) = some (.column [1, 1, 1]) := by
    decide +kernel
  rw [hfactors] at hone
  exact Option.some.inj hone

end Gate

end Plonkish
