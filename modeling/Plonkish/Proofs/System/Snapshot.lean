import Mathlib.Control.Monad.Basic
import Plonkish.Matrix.Residuals
import Plonkish.Matrix.Verify
import Plonkish.Operation
import Plonkish.Proofs.Refusal

/-!
# The shape of a circuit is all that matters

A shape holds plain numbers only.  The columns are read back from it, with an integer in
the place of every selector, as a matrix made by hand.  Verification and residuals look at
a matrix through its columns alone, so they cannot tell the two apart, whatever they are
given.
-/

namespace Plonkish

variable {F : BaseField}

/-- The matrix that a shape describes, in a field and with a quotient domain of its own.
Indices have the bound of a system with as many variables, which is that of any other
matrix unless there are more than `2^63` of them. -/
def Shape.matrix (F : BaseField) (shape : Shape) (quotientDomain : Except CircuitError Int) :
    ConstraintMatrix F where
  size := shape.size
  numVars := shape.numVars
  wiring := shape.wiring
  selectors := shape.selectors.map (·.map Value.ofNat)
  bindingRows := shape.bindingRows
  bindingVars := shape.bindingVars
  quotientDomain
  indexBound := max wordBound shape.numVars

/-! ### Elements as plain numbers -/

theorem Element.ofInt_val (value : Element F) : Element.ofInt F value.val = value := by
  have hmod : (value.val : Int) % F.modulus = value.val :=
    Int.emod_eq_of_lt (Int.natCast_nonneg _) (Int.ofNat_lt.mpr value.isLt)
  apply Element.ext
  change ((value.val : Int) % F.modulus).toNat = value.val
  rw [hmod, Int.toNat_natCast]

theorem Value.toElement_ofNat_val (value : Element F) :
    (Value.ofNat value.val).toElement F = .ok value :=
  congrArg Except.ok value.ofInt_val

/-- A column of elements is read back from their residues. -/
theorem Value.toColumn_map_val (column : List (Element F)) :
    Value.toColumn F ((column.map Element.val).map Value.ofNat) = .ok column := by
  rw [Value.toColumn, List.map_map]
  exact mapM_map_eq_ok Value.toElement_ofNat_val column

namespace ConstraintMatrix

/-! ### Matrices with the same columns -/

/-- The matrices have the same columns of elements and indices.  How their selectors are
given does not count, nor what they answer when asked for a quotient domain. -/
structure SameColumns (left right : ConstraintMatrix F) : Prop where
  size_eq : left.size = right.size
  numVars_eq : left.numVars = right.numVars
  wiring_eq : left.wiring = right.wiring
  selectorColumns_eq : left.selectorColumns = right.selectorColumns
  bindingRows_eq : left.bindingRows = right.bindingRows
  bindingVars_eq : left.bindingVars = right.bindingVars
  indexBound_eq : left.indexBound = right.indexBound

section SameColumns

variable {left right : ConstraintMatrix F} (hsame : SameColumns left right)

include hsame

theorem SameColumns.givenValues_eq (given givenInputs : Value) :
    left.givenValues given givenInputs = right.givenValues given givenInputs := by
  rw [givenValues, givenValues, hsame.numVars_eq, hsame.bindingRows_eq, hsame.bindingVars_eq]

theorem SameColumns.checkRow_eq (selectors : List (List (Element F)))
    (witness : List (Element F)) (bindings : List (PublicBinding F)) :
    left.checkRow selectors witness bindings = right.checkRow selectors witness bindings := by
  funext row
  rw [checkRow, checkRow, hsame.wiring_eq]

theorem SameColumns.verify_eq (given givenInputs : Value) :
    left.verify given givenInputs = right.verify given givenInputs := by
  have hbindings : left.publicBindings = right.publicBindings := by
    funext inputs
    rw [publicBindings, publicBindings, hsame.bindingRows_eq, hsame.bindingVars_eq]
  simp only [verify, checkRows_eq_forM, hsame.givenValues_eq, hsame.selectorColumns_eq,
    hsame.size_eq, hsame.checkRow_eq, hbindings]

theorem SameColumns.wireValues_eq (witness : List (Element F)) :
    left.wireValues witness = right.wireValues witness := by
  rw [wireValues, wireValues, checkWiring, checkWiring, hsame.wiring_eq, hsame.numVars_eq,
    hsame.indexBound_eq]

theorem SameColumns.publicColumn_eq (inputs : List Value) :
    left.publicColumn inputs = right.publicColumn inputs := by
  rw [publicColumn, publicColumn, zeroColumn, zeroColumn, hsame.wiring_eq, hsame.size_eq,
    hsame.bindingRows_eq]

theorem SameColumns.residuals_eq (given givenInputs : Value) :
    left.residuals given givenInputs = right.residuals given givenInputs := by
  simp only [residuals, hsame.givenValues_eq, hsame.size_eq, hsame.wireValues_eq,
    hsame.selectorColumns_eq, hsame.publicColumn_eq]

theorem SameColumns.unsatisfiedRows_eq (given givenInputs : Value) :
    left.unsatisfiedRows given givenInputs = right.unsatisfiedRows given givenInputs := by
  rw [unsatisfiedRows, unsatisfiedRows, hsame.residuals_eq]

end SameColumns

/-! ### The matrix of a shape -/

variable {matrix : ConstraintMatrix F} {shape : Shape}

/-- What a shape says about the matrix it was taken from. -/
theorem shape_eq_ok_iff :
    matrix.shape = .ok shape ↔
      matrix.quotientDomain = .ok shape.quotientDomain ∧
        matrix.checkWiring matrix.indexBound = .ok () ∧ matrix.hasDeclaredSize ∧
        ∃ columns, matrix.selectorColumns = .ok columns ∧
          shape = ⟨matrix.size, matrix.numVars, matrix.wiring.length, matrix.selectors.length,
            Gate.maxDegree, shape.quotientDomain, matrix.wiring,
            columns.map (·.map Element.val), matrix.bindingRows, matrix.bindingVars⟩ := by
  rw [ConstraintMatrix.shape, bind_eq_ok_iff]
  constructor
  · rintro ⟨quotientDomain, hdomain, hrest⟩
    obtain ⟨_, hwiring, hrest⟩ := bind_eq_ok_iff.mp hrest
    by_cases hsize : matrix.hasDeclaredSize
    · rw [if_pos hsize] at hrest
      obtain ⟨columns, hcolumns, hshape⟩ := bind_eq_ok_iff.mp hrest
      cases hshape
      exact ⟨hdomain, hwiring, hsize, columns, hcolumns, rfl⟩
    · rw [if_neg hsize] at hrest
      cases hrest
  · rintro ⟨hdomain, hwiring, hsize, columns, hcolumns, hshape⟩
    refine ⟨shape.quotientDomain, hdomain, ?_⟩
    rw [hwiring, except_bind_ok, if_pos hsize, hcolumns, hshape]
    rfl

/-- The selectors of the matrix that a shape describes are those it was taken from. -/
theorem selectorColumns_shapeMatrix {columns : List (List (Element F))}
    (hshape : shape.selectors = columns.map (·.map Element.val))
    (quotientDomain : Except CircuitError Int) :
    (shape.matrix F quotientDomain).selectorColumns = .ok columns := by
  rw [selectorColumns, Shape.matrix, hshape, List.map_map]
  exact mapM_map_eq_ok Value.toColumn_map_val columns

/-- The matrix that a shape describes has the columns of the one it was taken from. -/
theorem sameColumns_shapeMatrix (hbound : matrix.indexBound = max wordBound matrix.numVars)
    (hshape : matrix.shape = .ok shape) (quotientDomain : Except CircuitError Int) :
    SameColumns (shape.matrix F quotientDomain) matrix := by
  obtain ⟨-, -, -, columns, hcolumns, hfields⟩ := shape_eq_ok_iff.mp hshape
  have hselectors : (shape.matrix F quotientDomain).selectorColumns = .ok columns :=
    selectorColumns_shapeMatrix (congrArg Shape.selectors hfields) quotientDomain
  exact {
    size_eq := congrArg Shape.size hfields
    numVars_eq := congrArg Shape.numVars hfields
    wiring_eq := congrArg Shape.wiring hfields
    selectorColumns_eq := hselectors.trans hcolumns.symm
    bindingRows_eq := congrArg Shape.bindingRows hfields
    bindingVars_eq := congrArg Shape.bindingVars hfields
    indexBound_eq := by rw [hbound, Shape.matrix, congrArg Shape.numVars hfields] }

/-- A shape is that of the matrix it describes, once that has the quotient domain. -/
theorem shape_shapeMatrix (hbound : matrix.indexBound = max wordBound matrix.numVars)
    (hshape : matrix.shape = .ok shape) :
    (shape.matrix F (.ok shape.quotientDomain)).shape = .ok shape := by
  have hsame := sameColumns_shapeMatrix hbound hshape (.ok shape.quotientDomain)
  obtain ⟨-, hwiring, hsize, columns, hcolumns, hfields⟩ := shape_eq_ok_iff.mp hshape
  have hcount : (shape.matrix F (.ok shape.quotientDomain)).selectors.length =
      matrix.selectors.length := by
    rw [Shape.matrix, List.length_map, congrArg Shape.selectors hfields, List.length_map,
      length_of_mapM_eq_ok hcolumns]
  refine shape_eq_ok_iff.mpr ⟨rfl, ?_, ?_, columns, hsame.selectorColumns_eq.trans hcolumns, ?_⟩
  · rwa [hsame.indexBound_eq, checkWiring, hsame.wiring_eq]
  · rwa [hasDeclaredSize, hsame.wiring_eq, hsame.size_eq]
  · rwa [hcount, hsame.size_eq, hsame.numVars_eq, hsame.wiring_eq, hsame.bindingRows_eq,
      hsame.bindingVars_eq]

end ConstraintMatrix

namespace System

/-- A system that has a shape is verified as the matrix that the shape describes, and so are
its residuals found, for every witness and every list of public inputs: each answer and each
refusal is the same.  The matrix has that shape itself if it has the quotient domain. -/
theorem shape_determines_checks {system : System F} {shape : Shape}
    (hshape : system.matrix.shape = .ok shape) (quotientDomain : Except CircuitError Int) :
    (∀ given givenInputs : Value,
      (shape.matrix F quotientDomain).verify given givenInputs =
          system.matrix.verify given givenInputs ∧
        (shape.matrix F quotientDomain).residuals given givenInputs =
          system.matrix.residuals given givenInputs ∧
        (shape.matrix F quotientDomain).unsatisfiedRows given givenInputs =
          system.matrix.unsatisfiedRows given givenInputs) ∧
      (quotientDomain = .ok shape.quotientDomain →
        (shape.matrix F quotientDomain).shape = .ok shape) := by
  have hsame := ConstraintMatrix.sameColumns_shapeMatrix rfl hshape quotientDomain
  refine ⟨fun given givenInputs => ⟨hsame.verify_eq given givenInputs,
    hsame.residuals_eq given givenInputs, hsame.unsatisfiedRows_eq given givenInputs⟩, ?_⟩
  rintro rfl
  exact ConstraintMatrix.shape_shapeMatrix rfl hshape

/-- A difference that is a public input. -/
def publicDifference : System .goldilocks :=
  (empty .goldilocks default).after [.newVariable (.int 5), .newVariable (.int 3),
    .sub (.int 0) (.int 1), .preparePublicInput (.int 2), .pad]

/-- The shape of the difference.  The second selector of its first row is minus one, as a
residue. -/
def differenceShape : Shape where
  size := 2
  numVars := 3
  wireCount := 5
  selectorCount := 13
  maxDegree := 5
  quotientDomain := 32
  wiring := [[0, 2], [1, 2], [0, 2], [0, 2], [2, 2]]
  selectors := [[1, 0], [BaseField.goldilocks.modulus - 1, 0], [0, 0], [0, 0], [0, 0], [0, 0],
    [0, 0], [0, 0], [0, 0], [0, 0], [0, 0], [0, 0], [1, 1]]
  bindingRows := [1]
  bindingVars := [2]

/-- A wrong public input is found in the matrix of the shape as it is in the system. -/
theorem shape_determines_checks_difference :
    publicDifference.matrix.shape = .ok differenceShape ∧
      (differenceShape.matrix .goldilocks (.ok 32)).verify (.list [.int 5, .int 3, .int 2])
          (.list [.int 7]) = .error (.rejected (.publicInputMismatch 1 2 7 2)) ∧
      (differenceShape.matrix .goldilocks (.ok 32)).shape = .ok differenceShape := by
  have hshape : publicDifference.matrix.shape = .ok differenceShape := by decide +kernel
  obtain ⟨hchecks, hagain⟩ := shape_determines_checks hshape (.ok 32)
  refine ⟨hshape, (hchecks _ _).1.trans ?_, hagain rfl⟩
  decide +kernel

end System

end Plonkish
