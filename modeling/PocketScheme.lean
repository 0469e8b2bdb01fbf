import PocketScheme.Main
import PocketScheme.Proofs.Token.Munch
import PocketScheme.Reading
import PocketScheme.Value.Inspect
import PocketScheme.Proofs.Reading.Machine
import PocketScheme.Proofs.Reading.Grammar
import PocketScheme.Proofs.Reading.Acceptance
import PocketScheme.Proofs.Reading.RoundTrip
import PocketScheme.Proofs.Position
import PocketScheme.Proofs.Reading.Diagnosis
import PocketScheme.Proofs.Evaluation.Context
import PocketScheme.Proofs.Evaluation.Origin
import PocketScheme.Proofs.Value.Equivalence
import PocketScheme.Proofs.Value.Kept
import PocketScheme.Proofs.Evaluation.Application
import PocketScheme.Proofs.Session.ReadBack
import PocketScheme.Proofs.Session.Channel
import PocketScheme.Proofs.Token.Separation
import PocketScheme.Proofs.Text.Numeral
import PocketScheme.Proofs.Value.Coercion
import PocketScheme.Proofs.Fault.Basic
import PocketScheme.Proofs.Fault.Escape
import PocketScheme.Proofs.Stream.Request
import PocketScheme.Proofs.Stream.Expression
import PocketScheme.Proofs.Stream.Ledger
import PocketScheme.Proofs.Evaluation.Trace
import PocketScheme.Proofs.Session.Operand
import PocketScheme.Proofs.Session.Log
import PocketScheme.Proofs.Reading.Notation
import PocketScheme.Proofs.Session.Line
import PocketScheme.Proofs.Session.Loop
import PocketScheme.Proofs.Command.Verbosity
import PocketScheme.Proofs.Primitive.Division
import PocketScheme.Proofs.Evaluation.Normal
import PocketScheme.Proofs.Primitive.Number
import PocketScheme.Proofs.Primitive.Fold
import PocketScheme.Proofs.Primitive.Order
import PocketScheme.Proofs.Value.Inspect
