import Plonkish.Gate.Basic
import Plonkish.Value

/-!
# Configuration of a circuit

A configuration names the field and says how large the quotient domain of a
proof is.  The domain has to exceed the degree of the quotient polynomial, which
is five times the number of rows plus seven, so small circuits get a larger
blowup factor than others.
-/

namespace Plonkish

/-- How the size of the quotient domain follows from the number of rows. -/
structure QuotientDomain where
  /-- The blowup factor of circuits above the threshold. -/
  blowup : Int := 6
  /-- The blowup factor of circuits up to the threshold. -/
  smallBlowup : Int := 16
  /-- The largest number of rows of a small circuit. -/
  threshold : Int := 4
  /-- The general factor exceeds the gate degree. -/
  degree_lt_blowup : (Gate.maxDegree : Int) < blowup := by decide
  blowup_le_smallBlowup : blowup ≤ smallBlowup := by decide
  threshold_nonneg : 0 ≤ threshold := by decide
  deriving DecidableEq

instance : Inhabited QuotientDomain := ⟨{}⟩

/-- The factors and the threshold of a quotient domain as a caller gives them. -/
structure QuotientArguments where
  blowup : Value := .int 6
  smallBlowup : Value := .int 16
  threshold : Value := .int 4

namespace QuotientDomain

/-- The quotient domain with the given factors and threshold, which are checked
in this order. -/
def ofArguments (given : QuotientArguments) : Except CircuitError QuotientDomain := do
  let general ← given.blowup.toNumber
  if enough : (Gate.maxDegree : Int) < general then
    let small ← given.smallBlowup.toNumber
    if ordered : general ≤ small then
      let limit ← given.threshold.toNumber
      if nonneg : 0 ≤ limit then
        return ⟨general, small, limit, enough, ordered, nonneg⟩
      else throw (.parameter .negativeThreshold)
    else throw (.parameter
      (.smallBlowupTooSmall given.smallBlowup.display given.blowup.display))
  else throw (.parameter (.blowupTooSmall given.blowup.display))

/-- The domain size that the factors give for a number of rows. -/
def rawSize (domain : QuotientDomain) (rows : Int) : Int :=
  if rows > domain.threshold then rows * domain.blowup else rows * domain.smallBlowup

/-- The bound that the domain size for a number of rows has to exceed. -/
def quotientDegree (rows : Int) : Int :=
  Gate.maxDegree * rows + 7

/-- Why a domain size is refused.  The numbers in the message are written in full
or not at all. -/
def refusal (size : Int) (rows : Int) (shown : String) : CircuitError :=
  if isTooLong size || isTooLong rows || isTooLong (quotientDegree rows) then
    .input .numberTooLong
  else .parameter (.domainTooSmall size shown (quotientDegree rows))

/-- The size of the quotient domain for a number of rows, refused if it does not
exceed the degree of the quotient. -/
def size (domain : QuotientDomain) (rows : Value) : Except CircuitError Int := do
  let number ← rows.toNumber
  if domain.rawSize number ≤ quotientDegree number then
    throw (refusal (domain.rawSize number) number rows.display)
  return domain.rawSize number

end QuotientDomain

structure Config where
  field : BaseField := .bls12381
  given : QuotientArguments := {}
  quotient : QuotientDomain := {}

namespace Config

/-- The last entry under a key. -/
def lookup? (key : String) (entries : List (Text × Value)) : Option Value :=
  entries.reverse.lookup (.ofString key)

def fieldNamed : Value → Except CircuitError BaseField
  | .text name =>
    match name.toString?.bind BaseField.ofName? with
    | some F => .ok F
    | none => .error (.parameter (.unknownField name))
  | .list entries => .error (.input (.notAName (Value.list entries).display))
  | .element value => .error (.input (.notAName (Value.element value).display))
  | .column F values => .error (.input (.notAName (Value.column F values).display))
  | value => .error (.parameter (.unknownField value.display))

/-- The configuration with the given entries.  Missing entries take their
default, unknown ones are ignored, and the last entry under a key counts. -/
def ofEntries (entries : List (Text × Value)) : Except CircuitError Config := do
  let entry (key : String) (default : Value) := (lookup? key entries).getD default
  let field ← fieldNamed (entry "field" (.text BaseField.bls12381.name))
  let standard : QuotientArguments := {}
  let given : QuotientArguments := {
    blowup := entry "quotBlowup" standard.blowup
    smallBlowup := entry "smallQuotBlowup" standard.smallBlowup
    threshold := entry "smallSizeThreshold" standard.threshold
  }
  return { field, given, quotient := ← QuotientDomain.ofArguments given }

end Config

end Plonkish
