/-!
# Prime fields

Circuits are built over one of two prime fields.  An element is represented by
its canonical residue, the natural number below the modulus, and arithmetic is
exact arithmetic modulo that prime.
-/

namespace Plonkish

/-- The prime fields a circuit can be built over. -/
inductive BaseField where
  /-- The scalar field of the curve BLS12-381. -/
  | bls12381
  /-- The field of order `2^64 - 2^32 + 1`. -/
  | goldilocks
  deriving DecidableEq

namespace BaseField

def modulus : BaseField → Nat
  | bls12381 => 0x73EDA753299D7D483339D80809A1D80553BDA402FFFE5BFEFFFFFFFF00000001
  | goldilocks => 0xFFFFFFFF00000001

theorem modulus_pos (F : BaseField) : 0 < F.modulus := by
  cases F <;> decide

theorem one_lt_modulus (F : BaseField) : 1 < F.modulus := by
  cases F <;> decide

/-- The name under which a configuration selects the field. -/
def name : BaseField → String
  | bls12381 => "bls12_381"
  | goldilocks => "goldilocks"

/-- Every field, in the order in which messages list them. -/
def all : List BaseField := [bls12381, goldilocks]

def ofName? (name : String) : Option BaseField :=
  all.find? fun F => F.name == name

theorem ofName?_name (F : BaseField) : ofName? F.name = some F := by
  cases F <;> decide

/-- The name of the field in messages: its order, written as a Galois field. -/
def displayName (F : BaseField) : String :=
  s!"GF({F.modulus})"

/-- The number of bytes that hold every canonical residue. -/
def byteLength (F : BaseField) : Nat :=
  (F.modulus.log2 + 8) / 8

def other : BaseField → BaseField
  | bls12381 => goldilocks
  | goldilocks => bls12381

end BaseField

/-- An element of the field `F`, as its canonical residue. -/
@[ext]
structure Element (F : BaseField) where
  val : Nat
  isLt : val < F.modulus
  deriving DecidableEq

namespace Element

variable {F : BaseField}

def ofNat (F : BaseField) (value : Nat) : Element F :=
  ⟨value % F.modulus, Nat.mod_lt _ F.modulus_pos⟩

/-- The residue class of an integer of any size and sign. -/
def ofInt (F : BaseField) (value : Int) : Element F :=
  ⟨(value % F.modulus).toNat, by
    have hpos : (0 : Int) < F.modulus := Int.ofNat_lt.mpr F.modulus_pos
    have hlt := Int.emod_lt_of_pos value hpos
    omega⟩

@[simp]
theorem val_ofNat (value : Nat) : (ofNat F value).val = value % F.modulus := rfl

instance : Zero (Element F) := ⟨ofNat F 0⟩

instance : One (Element F) := ⟨ofNat F 1⟩

instance : Inhabited (Element F) := ⟨0⟩

instance : Add (Element F) where
  add left right := ofNat F (left.val + right.val)

instance : Mul (Element F) where
  mul left right := ofNat F (left.val * right.val)

instance : Neg (Element F) where
  neg value := ofNat F (F.modulus - value.val)

instance : Sub (Element F) where
  sub left right := ofNat F (left.val + (F.modulus - right.val))

@[simp]
theorem val_zero : (0 : Element F).val = 0 := Nat.zero_mod _

@[simp]
theorem val_one : (1 : Element F).val = 1 := Nat.mod_eq_of_lt F.one_lt_modulus

theorem val_add (left right : Element F) :
    (left + right).val = (left.val + right.val) % F.modulus := rfl

theorem val_mul (left right : Element F) :
    (left * right).val = left.val * right.val % F.modulus := rfl

/-- The power by a natural exponent: square and multiply along the binary digits
of the exponent, the most significant first. -/
def pow (base : Element F) (exponent : Nat) : Element F :=
  (List.range (exponent.log2 + 1)).foldr
    (fun digit power =>
      if exponent.testBit digit then power * power * base else power * power) 1

/-- The multiplicative inverse, and zero for zero.  By Fermat's little theorem
both are the power by the order less two. -/
def inverseOrZero (value : Element F) : Element F :=
  value.pow (F.modulus - 2)

end Element

end Plonkish
