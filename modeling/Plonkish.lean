import Plonkish.Circuit.ArithmeticRange
import Plonkish.Circuit.OnlineValue
import Plonkish.Config.Basic
import Plonkish.Config.Json
import Plonkish.Decimal.Binary64
import Plonkish.Decimal.Shortest
import Plonkish.Error
import Plonkish.Field.Basic
import Plonkish.Field.Display
import Plonkish.Field.Encoding
import Plonkish.Gadget.Arithmetic
import Plonkish.Gadget.Equality
import Plonkish.Gadget.RangeCheck
import Plonkish.Gate.Basic
import Plonkish.Gate.Column
import Plonkish.Gate.Row
import Plonkish.Json.Document
import Plonkish.Json.Token
import Plonkish.Matrix.Basic
import Plonkish.Matrix.Residuals
import Plonkish.Matrix.Verify
import Plonkish.Memory
import Plonkish.Operand
import Plonkish.Operation
import Plonkish.Proofs.Circuit.ArithmeticRange
import Plonkish.Proofs.Circuit.Exactness
import Plonkish.Proofs.Circuit.OnlineValue
import Plonkish.Proofs.Circuit.Steps
import Plonkish.Proofs.Config.QuotientDomain
import Plonkish.Proofs.Field.Algebra
import Plonkish.Proofs.Field.Digits
import Plonkish.Proofs.Field.Encoding
import Plonkish.Proofs.Field.Primality
import Plonkish.Proofs.Gadget.DigitReads
import Plonkish.Proofs.Gadget.Equality
import Plonkish.Proofs.Gadget.EqualityWitness
import Plonkish.Proofs.Gadget.Formula
import Plonkish.Proofs.Gadget.RangeCheck
import Plonkish.Proofs.Gadget.Recomposition
import Plonkish.Proofs.Gate.Broadcast
import Plonkish.Proofs.Gate.Column
import Plonkish.Proofs.Gate.Extent
import Plonkish.Proofs.Gate.Inversion
import Plonkish.Proofs.Gate.Multipliers
import Plonkish.Proofs.Gate.Relation
import Plonkish.Proofs.Matrix.Agreement
import Plonkish.Proofs.Matrix.Arguments
import Plonkish.Proofs.Matrix.PublicInputs
import Plonkish.Proofs.Matrix.Residuals
import Plonkish.Proofs.Operation.Accepted
import Plonkish.Proofs.Operation.Change
import Plonkish.Proofs.Operation.Determined
import Plonkish.Proofs.Operation.Frozen
import Plonkish.Proofs.Operation.Plan
import Plonkish.Proofs.Operation.SameCircuit
import Plonkish.Proofs.Operation.Settled
import Plonkish.Proofs.Operation.Stepwise
import Plonkish.Proofs.Operation.Uninterrupted
import Plonkish.Proofs.Refusal
import Plonkish.Proofs.Run.AppendOnly
import Plonkish.Proofs.Run.Atomicity
import Plonkish.Proofs.Run.BooleanVariables
import Plonkish.Proofs.Run.Calls
import Plonkish.Proofs.Run.DefinedVariables
import Plonkish.Proofs.Run.Determinism
import Plonkish.Proofs.Run.DigitReads
import Plonkish.Proofs.Run.EqualityFlags
import Plonkish.Proofs.Run.GateRelations
import Plonkish.Proofs.Run.HonestWitness
import Plonkish.Proofs.Run.Lifecycle
import Plonkish.Proofs.Run.MalformedArguments
import Plonkish.Proofs.Run.Padding
import Plonkish.Proofs.Run.QuotientDomain
import Plonkish.Proofs.Run.RangeCheck
import Plonkish.Proofs.Run.Representation
import Plonkish.Proofs.Run.Residuals
import Plonkish.Proofs.Run.Simulation
import Plonkish.Proofs.Run.WitnessIndependence
import Plonkish.Proofs.System.Acceptance
import Plonkish.Proofs.System.Columns
import Plonkish.Proofs.System.Completion
import Plonkish.Proofs.System.Continuation
import Plonkish.Proofs.System.Growth
import Plonkish.Proofs.System.Padding
import Plonkish.Proofs.System.PartOf
import Plonkish.Proofs.System.Rejection
import Plonkish.Proofs.System.Snapshot
import Plonkish.Proofs.System.WellFormed
import Plonkish.System.Basic
import Plonkish.System.Builder
import Plonkish.System.Columns
import Plonkish.System.Phase
import Plonkish.Text.Basic
import Plonkish.Text.Bracketed
import Plonkish.Text.Digits
import Plonkish.Text.Printable
import Plonkish.Text.Quoted
import Plonkish.Value
