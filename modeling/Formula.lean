import Formula.Main
import Formula.Token.Cursor
import Formula.Proofs.Evaluation.Stage
import Formula.Proofs.Printer.Checked
import Formula.Proofs.Printer.Meaning
import Formula.Proofs.Printer.Parsed
import Formula.Proofs.Value.Equality
import Formula.Proofs.Value.Transitivity
import Formula.Proofs.Duration.Components
import Formula.Proofs.Evaluation.Reach
import Formula.Proofs.Evaluation.Calls
import Formula.Proofs.Evaluation.Eager
import Formula.Proofs.Evaluation.Root
import Formula.Proofs.Evaluation.Skip
import Formula.Proofs.Lexer.Relexed
import Formula.Proofs.Lexer.Session
import Formula.Proofs.Parser.Lookahead
import Formula.Proofs.Parser.Offence
import Formula.Proofs.Parser.Errors
import Formula.Proofs.Parser.PointNumber
import Formula.Proofs.Parser.SameTokens
import Formula.Proofs.Json.Path
import Formula.Proofs.Value.Bitwise
import Formula.Proofs.DateTime.RoundTrip
import Formula.Proofs.Value.Milliseconds
import Formula.Proofs.Builtin.Text
import Formula.Proofs.Builtin.Time
import Formula.Proofs.Value.Difference
import Formula.Proofs.Record
