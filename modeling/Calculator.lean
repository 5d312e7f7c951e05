import Calculator.CommandLine
import Calculator.Configuration
import Calculator.Expression.Arrangement
import Calculator.Expression.Balance
import Calculator.Expression.Calculation
import Calculator.Expression.Error
import Calculator.Expression.Evaluation
import Calculator.Expression.Feasibility
import Calculator.Expression.Finite
import Calculator.Expression.Grammar
import Calculator.Expression.Operator
import Calculator.Expression.Pass
import Calculator.Expression.Places
import Calculator.Expression.Stretch
import Calculator.Expression.Token
import Calculator.Expression.Tree
import Calculator.Files.FileSystem
import Calculator.Files.Path
import Calculator.History.Canonical
import Calculator.History.Content
import Calculator.History.Entry
import Calculator.History.Reader
import Calculator.History.Rendering
import Calculator.History.Store
import Calculator.History.Writer
import Calculator.Json.Failure
import Calculator.Json.Grammar
import Calculator.Json.Mismatch
import Calculator.Json.Numeral
import Calculator.Json.Scanner
import Calculator.Json.Skip
import Calculator.Json.Text
import Calculator.Main
import Calculator.Notice
import Calculator.Number.Binary
import Calculator.Number.Decimal
import Calculator.Number.Exact
import Calculator.Number.Layout
import Calculator.Number.Literal
import Calculator.Number.Nearest
import Calculator.Number.Numeral
import Calculator.Number.Shortest
import Calculator.Proofs.Expression.Acceptance
import Calculator.Proofs.Expression.Arrangement
import Calculator.Proofs.Expression.Balance
import Calculator.Proofs.Expression.Calculation
import Calculator.Proofs.Expression.Classification
import Calculator.Proofs.Expression.Depth
import Calculator.Proofs.Expression.Evaluation
import Calculator.Proofs.Expression.Feasibility
import Calculator.Proofs.Expression.Group
import Calculator.Proofs.Expression.Infix
import Calculator.Proofs.Expression.Pass
import Calculator.Proofs.Expression.Pieces
import Calculator.Proofs.Expression.Places
import Calculator.Proofs.Expression.Results
import Calculator.Proofs.Expression.Spacing
import Calculator.Proofs.Expression.SquareRoot
import Calculator.Proofs.Expression.Stretch
import Calculator.Proofs.Expression.Tokens
import Calculator.Proofs.Expression.Trace
import Calculator.Proofs.Expression.Tree
import Calculator.Proofs.Expression.Writing
import Calculator.Proofs.Files.Writing
import Calculator.Proofs.History.Canonical
import Calculator.Proofs.History.Document
import Calculator.Proofs.History.Growth
import Calculator.Proofs.History.Interchange
import Calculator.Proofs.History.Refinement
import Calculator.Proofs.History.Refusal
import Calculator.Proofs.History.Rendering
import Calculator.Proofs.Json.Skip
import Calculator.Proofs.Json.Text
import Calculator.Proofs.Number.Bits
import Calculator.Proofs.Number.Characters
import Calculator.Proofs.Number.Literal
import Calculator.Proofs.Number.Nearest
import Calculator.Proofs.Number.Numeral
import Calculator.Proofs.Number.Reading
import Calculator.Proofs.Number.Rounding
import Calculator.Proofs.Number.Shortest
import Calculator.Proofs.Session.Agreement
import Calculator.Proofs.Session.Control
import Calculator.Proofs.Session.Course
import Calculator.Proofs.Session.Fault
import Calculator.Proofs.Session.Faultless
import Calculator.Proofs.Session.Lockstep
import Calculator.Proofs.Session.Operations
import Calculator.Proofs.Session.Record
import Calculator.Proofs.Session.Replay
import Calculator.Proofs.Session.Replies
import Calculator.Proofs.Session.Rounds
import Calculator.Proofs.Session.Saving
import Calculator.Proofs.Session.Terminal
import Calculator.Proofs.Session.Transcript
import Calculator.Proofs.Steps
import Calculator.Proofs.Text.Bytes
import Calculator.Proofs.Text.Lines
import Calculator.Proofs.Text.Pieces
import Calculator.Proofs.Text.Spacing
import Calculator.Session.Calculations
import Calculator.Session.Dialogue
import Calculator.Session.Replay
import Calculator.Session.Run
import Calculator.Session.Script
import Calculator.Session.Terminal
import Calculator.Session.Transcript
import Calculator.Text.Blank
import Calculator.Text.Bytes
import Calculator.Text.Hidden
import Calculator.Text.Lines
import Calculator.Text.Shown
