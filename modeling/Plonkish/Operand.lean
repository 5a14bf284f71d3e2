import Plonkish.Value

/-!
# Elements and columns as operands

The gate equation is evaluated on single elements, for one row, and on columns,
for all rows at once.  An `Operand` is either.  Two operands are combined entry
by entry: a single element meets every entry of a column, a column with one
entry meets every entry of the other, and otherwise the lengths have to agree.
-/

namespace Plonkish

/-- A single element or a column of elements. -/
inductive Operand (F : BaseField) where
  | single (value : Element F)
  /-- One element per row. -/
  | column (values : List (Element F))
  deriving DecidableEq

/-- Combines two columns entry by entry; a column with one entry is repeated. -/
def combineColumns {F : BaseField} (operation : Element F → Element F → Element F) :
    List (Element F) → List (Element F) → Except CircuitError (List (Element F))
  | [left], rights => .ok (rights.map (operation left))
  | lefts, [right] => .ok (lefts.map (operation · right))
  | lefts, rights =>
    if lefts.length = rights.length then .ok (List.zipWith operation lefts rights)
    else .error (.input .lengthMismatch)

namespace Operand

variable {F : BaseField}

/-- The operand that an argument stands for: a list is a column, everything else
a single element. -/
def ofValue (F : BaseField) : Value → Except CircuitError (Operand F)
  | .list values => return column (← Value.toColumn F values)
  | value => return single (← value.toElement F)

def map (operation : Element F → Element F) : Operand F → Operand F
  | single value => single (operation value)
  | column values => column (values.map operation)

def combine (operation : Element F → Element F → Element F) :
    Operand F → Operand F → Except CircuitError (Operand F)
  | single left, single right => .ok (single (operation left right))
  | single left, column rights => .ok (column (rights.map (operation left)))
  | column lefts, single right => .ok (column (lefts.map (operation · right)))
  | column lefts, column rights => return column (← combineColumns operation lefts rights)

def add (left right : Operand F) : Except CircuitError (Operand F) :=
  combine (· + ·) left right

def sub (left right : Operand F) : Except CircuitError (Operand F) :=
  combine (· - ·) left right

def mul (left right : Operand F) : Except CircuitError (Operand F) :=
  combine (· * ·) left right

def pow (base : Operand F) (exponent : Nat) : Operand F :=
  base.map (Element.pow · exponent)

def neg (value : Operand F) : Operand F :=
  value.map (- ·)

/-- The inverse of an element, with zero for zero.  A column is inverted entry by
entry if it has no zero; a column that holds a zero gives the single element
zero. -/
def inverseOrZero : Operand F → Operand F
  | single value => single value.inverseOrZero
  | column values =>
    if values.contains 0 then single 0
    else column (values.map Element.inverseOrZero)

def entries : Operand F → List (Element F)
  | single value => [value]
  | column values => values

/-- The element that the operand is, which no column is, whatever its length. -/
def toElement : Operand F → Except CircuitError (Element F)
  | single value => .ok value
  | column values => .error (.input (.columnForElement values.length))

end Operand

end Plonkish
