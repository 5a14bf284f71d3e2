import Plonkish.Error
import Plonkish.Memory

/-!
# Bytes and bits of a field element

The canonical encoding of an element is its residue in little-endian bytes, as
many as the modulus needs.  Only encodings of residues below the modulus are
read back.  The bits of an element are read from that encoding, the least
significant bit of the first byte first.
-/

namespace Plonkish

/-- The lowest `width` bytes of `value`, least significant first. -/
def bytesOfNat : Nat → Nat → List UInt8
  | 0, _ => []
  | width + 1, value => UInt8.ofNat (value % 256) :: bytesOfNat width (value / 256)

/-- The natural number with the given bytes, least significant first. -/
def natOfBytes : List UInt8 → Nat
  | [] => 0
  | byte :: bytes => byte.toNat + 256 * natOfBytes bytes

@[simp]
theorem length_bytesOfNat (width value : Nat) : (bytesOfNat width value).length = width := by
  induction width generalizing value with
  | zero => rfl
  | succ width ih => simp only [bytesOfNat, List.length_cons, ih]

def bitsOfByte (byte : UInt8) : List Bool :=
  (List.range 8).map byte.toNat.testBit

/-- A part of a list given by a count: the first `count` entries, or all but the
last `-count` if the count is negative. -/
def takeSigned {α : Type} (count : Int) (entries : List α) : List α :=
  if 0 ≤ count then entries.take count.toNat
  else entries.take (entries.length - (-count).toNat)

/-- Refuses to continue a list by a number of entries that does not fit into a word, even
where it is negative and no entry would be added, or by more entries than any memory holds. -/
def checkExtension (added : Int) : Except CircuitError Unit := do
  unless FitsWord added do throw (.input .indexTooLarge)
  unless added < lengthBound do throw (.input (.outOfMemory added))

namespace Element

variable {F : BaseField}

def toBytes (value : Element F) : List UInt8 :=
  bytesOfNat F.byteLength value.val

/-- The element with the given canonical encoding.  Any other number of bytes and
any number that is not below the modulus are refused. -/
def ofBytes (F : BaseField) (bytes : List UInt8) : Except CircuitError (Element F) :=
  if bytes.length ≠ F.byteLength then
    .error (.parameter (.byteCount F bytes.length))
  else if canonical : natOfBytes bytes < F.modulus then
    .ok ⟨natOfBytes bytes, canonical⟩
  else
    .error (.parameter .nonCanonicalEncoding)

def ofBit (F : BaseField) (bit : Bool) : Element F :=
  if bit then 1 else 0

def encodingBits (value : Element F) : List Bool :=
  value.toBytes.flatMap bitsOfByte

/-- The binary digits, as field elements, least significant first: the bits of
the encoding, zero-extended to `count` digits and then cut to that count.  A
negative count drops digits from the end of the encoding. -/
def bits (value : Element F) (count : Int) : List (Element F) :=
  let encoding := value.encodingBits
  let extended := encoding ++ List.replicate (count.toNat - encoding.length) false
  (takeSigned count extended).map (ofBit F)

/-- The binary digits that a caller asks for.  They are refused if the encoding cannot be
continued to that number of digits. -/
def toBits (value : Element F) (count : Int) : Except CircuitError (List (Element F)) := do
  checkExtension (count - value.encodingBits.length)
  return value.bits count

end Element

end Plonkish
