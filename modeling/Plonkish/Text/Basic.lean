/-!
# Texts

A text from outside may hold what no `String` can: half of a surrogate pair, which
takes a place in the text but is no character.  A `Text` is therefore a list of
code points.  Strings are the texts without halves, so turning a string into a
text loses nothing.
-/

namespace Plonkish

/-- A place in a text. -/
inductive CodePoint where
  | character (content : Char)
  /-- Half of a surrogate pair, by its distance from the first one. -/
  | half (offset : Fin 0x800)
  deriving DecidableEq

namespace CodePoint

/-- The number of the first half of a surrogate pair.  The first halves of pairs
come before the second ones. -/
def firstHalf : Nat := 0xD800

def code : CodePoint → Nat
  | character content => content.toNat
  | half offset => firstHalf + offset

def ofCode (code : Nat) : CodePoint :=
  if isHalf : firstHalf ≤ code ∧ code < firstHalf + 0x800 then
    half ⟨code - firstHalf, by omega⟩
  else character (Char.ofNat code)

@[simp]
theorem ofCode_code (point : CodePoint) : ofCode point.code = point := by
  cases point with
  | half offset => simp [ofCode, code]
  | character content =>
    have notHalf : ¬(firstHalf ≤ content.toNat ∧ content.toNat < firstHalf + 0x800) := by
      have valid : content.toNat.isValidChar := content.valid
      simp only [Nat.isValidChar, firstHalf] at *
      omega
    simp [ofCode, code, notHalf]

/-- The character at the place, if there is one. -/
def character? : CodePoint → Option Char
  | character content => some content
  | half _ => none

end CodePoint

/-- A text, by its code points. -/
structure Text where
  codePoints : List CodePoint
  deriving DecidableEq

namespace Text

def ofString (content : String) : Text :=
  ⟨content.toList.map .character⟩

instance : Coe String Text := ⟨ofString⟩

instance : Append Text where
  append left right := ⟨left.codePoints ++ right.codePoints⟩

/-- The text as a string, if it holds no half of a surrogate pair. -/
def toString? (content : Text) : Option String :=
  (content.codePoints.mapM CodePoint.character?).map String.ofList

@[simp]
theorem toString?_ofString (content : String) : (ofString content).toString? = some content := by
  have characters (list : List Char) :
      (list.map CodePoint.character).mapM CodePoint.character? = some list := by
    induction list with
    | nil => rfl
    | cons first rest ih => simp [ih, CodePoint.character?]
  simp [ofString, toString?, characters]

end Text

end Plonkish
