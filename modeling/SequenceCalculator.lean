import SequenceCalculator.CommandLine.Argument
import SequenceCalculator.CommandLine.Invocation
import SequenceCalculator.CommandLine.Misuse
import SequenceCalculator.CommandLine.Request
import SequenceCalculator.CommandLine.Usage
import SequenceCalculator.Evaluation.Display
import SequenceCalculator.Evaluation.Environment
import SequenceCalculator.Evaluation.Expression
import SequenceCalculator.Evaluation.Program
import SequenceCalculator.Evaluation.Run
import SequenceCalculator.Evaluation.Value
import SequenceCalculator.Fault
import SequenceCalculator.Grammar.Expression
import SequenceCalculator.Grammar.Program
import SequenceCalculator.Grammar.Token
import SequenceCalculator.Main
import SequenceCalculator.Number.Bits
import SequenceCalculator.Number.Decimal
import SequenceCalculator.Number.Floating
import SequenceCalculator.Number.Folds
import SequenceCalculator.Number.Numeral
import SequenceCalculator.Number.Power
import SequenceCalculator.Number.Rounding
import SequenceCalculator.Number.Shortest
import SequenceCalculator.Outcome
import SequenceCalculator.Parsing.Cursor
import SequenceCalculator.Parsing.Numeral
import SequenceCalculator.Parsing.Parser
import SequenceCalculator.Parsing.Pattern
import SequenceCalculator.Parsing.Reader
import SequenceCalculator.Parsing.Unreadable
import SequenceCalculator.Proofs.CommandLine.AllOrNothing
import SequenceCalculator.Proofs.Evaluation.Cancellation
import SequenceCalculator.Proofs.Evaluation.Demands
import SequenceCalculator.Proofs.Evaluation.Faults
import SequenceCalculator.Proofs.Evaluation.FreeNames
import SequenceCalculator.Proofs.Evaluation.FreshScopes
import SequenceCalculator.Proofs.Evaluation.Kinds
import SequenceCalculator.Proofs.Evaluation.NormalForm
import SequenceCalculator.Proofs.Evaluation.Parts
import SequenceCalculator.Proofs.Evaluation.ProgramFaults
import SequenceCalculator.Proofs.Evaluation.Ranges
import SequenceCalculator.Proofs.Evaluation.ReadBack
import SequenceCalculator.Proofs.Evaluation.Rendering
import SequenceCalculator.Proofs.Evaluation.Replacement
import SequenceCalculator.Proofs.Evaluation.Results
import SequenceCalculator.Proofs.Evaluation.Runs
import SequenceCalculator.Proofs.Evaluation.Statements
import SequenceCalculator.Proofs.Evaluation.Stores
import SequenceCalculator.Proofs.Evaluation.Termination
import SequenceCalculator.Proofs.Evaluation.Unwrapping
import SequenceCalculator.Proofs.Grammar.Breaking
import SequenceCalculator.Proofs.Grammar.Completeness
import SequenceCalculator.Proofs.Grammar.Derivation
import SequenceCalculator.Proofs.Grammar.Descent
import SequenceCalculator.Proofs.Grammar.Illegible
import SequenceCalculator.Proofs.Grammar.Layout
import SequenceCalculator.Proofs.Grammar.Lines
import SequenceCalculator.Proofs.Grammar.Remainder
import SequenceCalculator.Proofs.Grammar.Soundness
import SequenceCalculator.Proofs.Grammar.Tokens
import SequenceCalculator.Proofs.Grammar.WellFormed
import SequenceCalculator.Proofs.Grammar.Writing
import SequenceCalculator.Proofs.Number.Digits
import SequenceCalculator.Proofs.Number.Nearest
import SequenceCalculator.Proofs.Number.Order
import SequenceCalculator.Proofs.Parsing.Cursors
import SequenceCalculator.Proofs.Parsing.Numerals
import SequenceCalculator.Proofs.Parsing.Positions
import SequenceCalculator.Proofs.Parsing.Repetition
import SequenceCalculator.Proofs.Parsing.Replies
import SequenceCalculator.Proofs.Report.Braces
import SequenceCalculator.Proofs.Report.Filling
import SequenceCalculator.Proofs.Report.Notices
import SequenceCalculator.Proofs.Report.Verbatim
import SequenceCalculator.Proofs.Session.Attribution
import SequenceCalculator.Proofs.Session.Bindings
import SequenceCalculator.Proofs.Session.Chronicle
import SequenceCalculator.Proofs.Session.FailuresTold
import SequenceCalculator.Proofs.Session.Modes
import SequenceCalculator.Proofs.Session.Orderly
import SequenceCalculator.Proofs.Session.Overtaking
import SequenceCalculator.Proofs.Session.Serialized
import SequenceCalculator.Proofs.Session.SyntaxErrors
import SequenceCalculator.Proofs.Session.Turns
import SequenceCalculator.Proofs.Shell.Continuation
import SequenceCalculator.Proofs.Shell.Survival
import SequenceCalculator.Proofs.Text.Classes
import SequenceCalculator.Report.Facet
import SequenceCalculator.Report.Handler
import SequenceCalculator.Report.Layout
import SequenceCalculator.Report.Notice
import SequenceCalculator.Report.Template
import SequenceCalculator.Session.Basic
import SequenceCalculator.Session.Location
import SequenceCalculator.Session.Schedule
import SequenceCalculator.Session.World
import SequenceCalculator.Shell.Basic
import SequenceCalculator.Shell.Command
import SequenceCalculator.Shell.Conversation
import SequenceCalculator.Text.Basic
import SequenceCalculator.Text.Blank
import SequenceCalculator.Text.Digit
import SequenceCalculator.Text.Letter
import SequenceCalculator.Text.Lines
import SequenceCalculator.Text.Quoted
import SequenceCalculator.Text.Slice
import SequenceCalculator.Text.Span
import SequenceCalculator.Text.Upper
import SequenceCalculator.Text.Utf8
import SequenceCalculator.Text.Visible
import SequenceCalculator.Tree.Node
import SequenceCalculator.Tree.Normalize
import SequenceCalculator.Tree.Shown
