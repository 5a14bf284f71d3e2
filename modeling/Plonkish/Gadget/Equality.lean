import Plonkish.Gadget.Arithmetic

/-!
# Equality of two variables

Two variables are forced to be equal by one row.  Whether they are equal is told
by two flags: with `diff` their difference and `inverse` its inverse, or any
value where the difference is zero, `notEqual = diff * inverse` and
`equal = 1 - notEqual`.  The row `diff * equal = 0` forces `equal` to be 0 where
the difference is not zero, so the flags do not depend on the choice of
`inverse`.
-/

namespace Plonkish

/-- The two flags that tell whether two variables are equal. -/
structure EqualityFlags where
  equal : BoolVar
  notEqual : BoolVar
  deriving DecidableEq

namespace Emit

variable {F : BaseField}

/-- Forces two variables to be equal: their difference is the variable zero. -/
def equation (left right : Variable F) : Emit F Unit := do
  let zero ← reserveZero
  let _ ← addRow (.difference left.index right.index zero.index)

def equalityFlags (left right : Variable F) : Emit F EqualityFlags := do
  let diff ← difference left right
  let inverse ← addVariable diff.value.inverseOrZero
  let notEqual ← product diff inverse
  let one ← reserveOne
  let equal ← difference one notEqual
  let zero ← reserveZero
  let _ ← addRow (.product diff.index equal.index zero.index)
  return ⟨⟨equal.index⟩, ⟨notEqual.index⟩⟩

end Emit

namespace Builder

variable {F : BaseField}

def equal (left right : Value) : Builder F Unit := do
  let left ← read left
  let right ← read right
  ensureBuilding
  emit (.equation left right)

def isEqualOrNotEqual (left right : Value) : Builder F EqualityFlags := do
  let left ← read left
  let right ← read right
  ensureBuilding
  emit (.equalityFlags left right)

def isEqual (left right : Value) : Builder F BoolVar :=
  return (← isEqualOrNotEqual left right).equal

def isNotEqual (left right : Value) : Builder F BoolVar :=
  return (← isEqualOrNotEqual left right).notEqual

end Builder

end Plonkish
