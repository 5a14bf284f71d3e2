import Plonkish.Error
import Plonkish.Field.Display
import Plonkish.Text.Digits
import Plonkish.Text.Quoted

/-!
# Arguments of any kind

Callers may pass anything where a number or an index belongs.  A `Value` is such
an argument; it is read as a field element, as an index or as a number, and what
does not fit is refused with a message that shows the argument.
-/

namespace Plonkish

/-- An argument as a caller gives it. -/
inductive Value where
  | int (number : Int)
  /-- An integer that is marked as the index of a variable forced to be 0 or 1. -/
  | boolVar (index : Int)
  /-- A truth value, which is neither an element nor an index. -/
  | bool (truth : Bool)
  | none
  | text (content : Text)
  /-- A floating-point number, by its text. -/
  | float (shown : String)
  | list (entries : List Value)
  | element {F : BaseField} (value : Element F)
  | column (F : BaseField) (values : List (Element F))

instance : Inhabited Value := ⟨.none⟩

namespace Value

mutual

def display : Value → String
  | int number => toString number
  | boolVar index => s!"BoolVar({index})"
  | bool truth => if truth then "True" else "False"
  | none => "None"
  | text content => quoted content
  | float shown => shown
  | list entries => "[" ++ commaSeparated (displayAll entries) ++ "]"
  | element value => value.display
  | column _ values => Element.displayColumn values

def displayAll : List Value → List String
  | [] => []
  | value :: values => value.display :: displayAll values

end

/-- The argument as an element of `F`.  Integers stand for their residue class;
elements of another field, columns, truth values and all that is no integer are
refused. -/
def toElement (F : BaseField) : Value → Except CircuitError (Element F)
  | int number => .ok (Element.ofInt F number)
  | boolVar index => .ok (Element.ofInt F index)
  | @element G value =>
    if same : G = F then .ok (same ▸ value)
    else .error (.parameter (.foreignElement G F))
  | column G values =>
    if G = F then .error (.parameter (.notASingleElement values.length))
    else .error (.parameter (.foreignElement G F))
  | value => .error (.parameter (.notAnElement value.display F))

def toColumn (F : BaseField) (values : List Value) : Except CircuitError (List (Element F)) :=
  values.mapM (toElement F)

/-- The entries of an argument that serves as a list.  A column is the list of its
elements, a text the list of its code points. -/
def entries : Value → Except CircuitError (List Value)
  | list values => .ok values
  | column _ values => .ok (values.map element)
  | text content => .ok (content.codePoints.map fun point => text ⟨[point]⟩)
  | value => .error (.input (.notAList value.display))

/-- The entry at a position of an argument.  An element is a column without positions. -/
def entry (position : Nat) : Value → Except CircuitError Value
  | element _ => .error (.input .missingEntry)
  | value => do
    match (← value.entries)[position]? with
    | some found => return found
    | .none => throw (.input .missingEntry)

def ofNat (number : Nat) : Value :=
  int number

/-- The integer that serves as an index, if the argument is one. -/
def index? : Value → Option Int
  | int number => some number
  | boolVar index => some index
  | _ => .none

/-- The integer that the argument counts as in comparisons; a truth value counts
as 1 or 0. -/
def toNumber : Value → Except CircuitError Int
  | int number => .ok number
  | boolVar index => .ok index
  | bool truth => .ok (if truth then 1 else 0)
  | value => .error (.input (.notANumber value.display))

/-- The truth value that an argument counts as: false for no value, for zero and
for an empty text or list.  A column of one entry counts as that entry, any other
column as neither. -/
def truth : Value → Except CircuitError Bool
  | none => .ok false
  | bool truth => .ok truth
  | int number => .ok (number ≠ 0)
  | boolVar index => .ok (index ≠ 0)
  | text content => .ok !content.codePoints.isEmpty
  | float shown => .ok (shown ≠ "0.0" && shown ≠ "-0.0")
  | list entries => .ok !entries.isEmpty
  | element value => .ok (value ≠ 0)
  | column _ [value] => .ok (value ≠ 0)
  | column _ values => .error (.input (.noTruthValue values.length))

/-- Whether the floating-point number with the given text is below a bound.  The
text has an exponent only where the number is nearer to zero than `10^-4` or at
least `10^16` away from it, which exceeds every bound in use. -/
def floatBelow (bound : Nat) (shown : String) : Bool :=
  match shown.toList with
  | '-' :: magnitude =>
    0 < bound || (magnitude.takeWhile (· ≠ 'e')).any fun character =>
      character ≠ '0' && character ≠ '.'
  | magnitude =>
    let whole := magnitude.takeWhile Char.isDigit
    if whole.isEmpty || magnitude.contains '+' then false
    else if magnitude.contains 'e' then 0 < bound
    else natOfDigits whole < bound

def isBelow (bound : Nat) : Value → Except CircuitError Bool
  | float shown => .ok (floatBelow bound shown)
  | value => return decide ((← value.toNumber) < bound)

/-- Whether the argument is a number between zero and a bound, the bound excluded. -/
def inBounds (bound : Nat) (value : Value) : Except CircuitError Bool :=
  return (← value.isBelow bound) && !(← value.isBelow 0)

@[simp]
theorem entries_list (values : List Value) : (list values).entries = .ok values := rfl

@[simp]
theorem toElement_element {F : BaseField} (value : Element F) :
    (element value).toElement F = .ok value := by
  simp [toElement]

end Value

end Plonkish
