import Plonkish.Field.Basic
import Plonkish.System.Phase
import Plonkish.Text.Basic

/-!
# Why an operation is refused

Every refusal is a value.  The causes fall into five groups: a parameter that
does not fit, an index that points nowhere, an operation that comes too late, a
witness that does not satisfy a circuit, and input of the wrong form.  The
wording of all of them is in `CircuitError.message`.

Where a message repeats an argument, the cause holds the argument's text.  A
message is a `Text`, since the name of a field is repeated as it was given.
-/

namespace Plonkish

/-- A parameter that does not fit its place. -/
inductive BadParameter where
  | unknownField (name : Text)
  /-- The argument is no integer and no element of the field. -/
  | notAnElement (shown : String) (expected : BaseField)
  | foreignElement (actual expected : BaseField)
  | notASingleElement (length : Nat)
  | byteCount (field : BaseField) (actual : Nat)
  | nonCanonicalEncoding
  | gateArity (wires selectors : Nat)
  /-- The multipliers of the selectors need more wires than were given. -/
  | multiplierArity (wires : Nat)
  | blowupTooSmall (shown : String)
  | smallBlowupTooSmall (small general : String)
  | negativeThreshold
  /-- The quotient domain does not exceed the degree of the quotient. -/
  | domainTooSmall (domain : Int) (size : String) (degree : Int)
  | selectorIndex (shown : String)
  | selectorCount (actual : Nat)
  | wireCount (actual : Nat)
  | inputCount (actual : Nat)
  | bitCount (shown : String)
  deriving DecidableEq

/-- The place in which an index of a variable is used. -/
inductive IndexRole where
  | operand
  | wire (slot : Nat)
  deriving DecidableEq

/-- An index that points to no variable, wire or row. -/
inductive BadIndex where
  | wireSlot (shown : String)
  | row (shown : String) (size : Nat)
  | notAnIndex (role : IndexRole) (shown : String)
  | variableOutOfBound (role : IndexRole) (shown : String) (numVars : Nat)
  deriving DecidableEq

/-- An operation that comes too late. -/
inductive TooLate where
  | additionsClosed (phase : Phase)
  | witnessCleared
  /-- A system is not padded after its witness was taken out. -/
  | paddingClosed
  /-- The witness is taken out only once. -/
  | alreadyTaken
  deriving DecidableEq

/-- Why a witness is rejected.  Elements appear as canonical residues. -/
inductive Rejection where
  | witnessLength (expected : Int) (actual : Nat)
  | publicInputCount (expected actual : Nat)
  | publicInputMismatch (row : Nat) (boundVar : Int) (expected actual : Nat)
  | unsatisfiedGate (row : Nat) (wires selectors : List Nat) (residual : Nat)
  deriving DecidableEq

/-- Input of the wrong form. -/
inductive BadInput where
  | lengthMismatch
  | missingEntry
  | weightCount (actual : Nat)
  | notANumber (shown : String)
  | notAName (shown : String)
  | notAList (shown : String)
  /-- A column of the given length stands where an operation needs one element. -/
  | columnForElement (length : Nat)
  /-- A column of the given length is neither true nor false. -/
  | noTruthValue (length : Nat)
  /-- An index of a variable or a row, or a number of digits, does not fit into 64 bits. -/
  | indexTooLarge
  | impossibleLength (length : Int)
  | outOfMemory (length : Int)
  | numberTooLong
  | invalidJson
  | nestingTooDeep
  | notAnObject
  deriving DecidableEq

inductive CircuitError where
  | parameter (cause : BadParameter)
  | index (cause : BadIndex)
  | tooLate (cause : TooLate)
  | rejected (cause : Rejection)
  | input (cause : BadInput)
  deriving DecidableEq

def commaSeparated (entries : List String) : String :=
  ", ".intercalate entries

namespace BadParameter

def message : BadParameter → Text
  | unknownField name =>
    let available := commaSeparated (BaseField.all.map fun F => s!"'{F.name}'")
    .ofString "Unknown field '" ++ name ++ .ofString s!"'. Available: [{available}]"
  | notAnElement shown expected =>
    s!"Cannot convert {shown} to an element of {expected.displayName}"
  | foreignElement actual expected =>
    s!"Element of {actual.displayName} cannot be used in {expected.displayName}"
  | notASingleElement length => s!"Expected a single element, got shape ({length},)"
  | byteCount field actual =>
    s!"Expected {field.byteLength} bytes for {field.displayName}, got {actual}"
  | nonCanonicalEncoding => "Non-canonical field element encoding"
  | gateArity wires selectors =>
    s!"eval_gate_func expects 5 wires and 13 selectors, got {wires} and {selectors}"
  | multiplierArity wires => s!"eval_selector_multipliers expects 5 wires, got {wires}"
  | blowupTooSmall shown => s!"quot_blowup must be >= 6, got {shown}"
  | smallBlowupTooSmall small general =>
    s!"small_quot_blowup ({small}) must be >= quot_blowup ({general})"
  | negativeThreshold => "small_size_threshold must be non-negative"
  | domainTooSmall domain size degree =>
    s!"Quotient domain of size {domain} is too small for {size} rows (need > {degree})"
  | selectorIndex shown => s!"Selector index {shown} out of range [0, 13)"
  | selectorCount actual => s!"Expected 13 selectors, got {actual}"
  | wireCount actual => s!"Expected 5 wires, got {actual}"
  | inputCount actual => s!"Linear combination takes 4 input wires, got {actual}"
  | bitCount shown => s!"the number of bits is less than two: {shown}"

end BadParameter

def IndexRole.label : IndexRole → String
  | operand => "var"
  | wire slot => s!"wire {slot}"

namespace BadIndex

def message : BadIndex → String
  | wireSlot shown => s!"wire index {shown} out of bound"
  | row shown size => s!"constraint index {shown} out of bound (size = {size})"
  | notAnIndex role shown => s!"{role.label} must be an integer variable index, got {shown}"
  | variableOutOfBound role shown numVars =>
    s!"{role.label} index {shown} out of bound (num_vars = {numVars})"

end BadIndex

namespace TooLate

def message : TooLate → String
  | additionsClosed phase =>
    s!"Constraint system is {phase.label}; no more variables or gates can be added"
  | witnessCleared => "Witness has been extracted and cleared"
  | paddingClosed => "Cannot pad after the witness has been cleared"
  | alreadyTaken => "Witness has already been extracted"

end TooLate

namespace Rejection

def message : Rejection → String
  | witnessLength expected actual => s!"witness len = {actual}, num_vars = {expected}"
  | publicInputCount expected actual =>
    s!"wrong number of online variables: got {actual}, expected {expected}"
  | publicInputMismatch row boundVar expected actual =>
    s!"cs index {row}: online var {expected} does not match "
      ++ s!"witness {actual} (variable {boundVar})"
  | unsatisfiedGate row wires selectors _ =>
    let wireText := commaSeparated (wires.map toString)
    let selectorText := commaSeparated (selectors.map toString)
    s!"cs index {row}: wire_vals = ({wireText}), sel_vals = ({selectorText})"

/-- The row at which the witness fails, if it was compared row by row. -/
def row? : Rejection → Option Nat
  | witnessLength .. | publicInputCount .. => none
  | publicInputMismatch row .. | unsatisfiedGate row .. => some row

end Rejection

namespace BadInput

def message : BadInput → String
  | lengthMismatch => "columns of these lengths cannot be combined"
  | missingEntry => "there is no such entry"
  | weightCount actual => s!"a linear combination takes 4 weights, got {actual}"
  | notANumber shown => s!"{shown} is not a number"
  | notAName shown => s!"{shown} is not a name"
  | notAList shown => s!"{shown} is not a list"
  | columnForElement length => s!"expected one element, got a column of length {length}"
  | noTruthValue length => s!"a column of length {length} is neither true nor false"
  | indexTooLarge => "an index does not fit into 64 bits"
  | impossibleLength length => s!"there is no column of length {length}"
  | outOfMemory length => s!"a column of length {length} does not fit into memory"
  | numberTooLong => "an integer has too many digits"
  | invalidJson => "the text is not in the JSON format"
  | nestingTooDeep => "the JSON text is nested too deeply"
  | notAnObject => "the JSON text is not an object"

end BadInput

def CircuitError.message : CircuitError → Text
  | parameter cause => cause.message
  | index cause => cause.message
  | tooLate cause => cause.message
  | rejected cause => cause.message
  | input cause => cause.message

end Plonkish
