import Interlock.Action
import Interlock.Action.Literal
import Interlock.Bindings
import Interlock.Clause
import Interlock.CommandLine
import Interlock.Connector
import Interlock.Draft
import Interlock.Draft.Stage
import Interlock.Error
import Interlock.Event
import Interlock.FileTree
import Interlock.Json
import Interlock.Json.Form
import Interlock.LineEditor
import Interlock.LineEditor.Completion
import Interlock.Main
import Interlock.Operand
import Interlock.Operator
import Interlock.Predicate
import Interlock.Proofs.Action.Literal
import Interlock.Proofs.Bindings.Lookup
import Interlock.Proofs.Clause.Refusal
import Interlock.Proofs.CommandLine.Arguments
import Interlock.Proofs.CommandLine.Start
import Interlock.Proofs.Draft.Agreement
import Interlock.Proofs.Draft.Independence
import Interlock.Proofs.Draft.Log
import Interlock.Proofs.Draft.Play
import Interlock.Proofs.Draft.Progress
import Interlock.Proofs.Draft.Soundness
import Interlock.Proofs.Draft.Step
import Interlock.Proofs.LineEditor.Completion
import Interlock.Proofs.Operand.Form
import Interlock.Proofs.Operand.Source
import Interlock.Proofs.Predicate.Fold
import Interlock.Proofs.Report.Arrangement
import Interlock.Proofs.Report.Lenience
import Interlock.Proofs.Report.Monotonicity
import Interlock.Proofs.Report.Queries
import Interlock.Proofs.Report.Reordering
import Interlock.Proofs.Report.Search
import Interlock.Proofs.Report.Specification
import Interlock.Proofs.Report.Totality
import Interlock.Proofs.Report.Trace
import Interlock.Proofs.Report.Verdicts
import Interlock.Proofs.Result
import Interlock.Proofs.Rule.Evaluation
import Interlock.Proofs.Rule.Failure
import Interlock.Proofs.Rule.Renaming
import Interlock.Proofs.Rule.RoundTrip
import Interlock.Proofs.RuleFile.Composition
import Interlock.Proofs.RuleFile.Defaults
import Interlock.Proofs.RuleFile.Lines
import Interlock.Proofs.Shell.Brackets
import Interlock.Proofs.Shell.Check
import Interlock.Proofs.Shell.Highlight
import Interlock.Proofs.Shell.Line
import Interlock.Proofs.Shell.Log
import Interlock.Proofs.Shell.Run
import Interlock.Proofs.Shell.Script
import Interlock.Proofs.Statement.Acceptance
import Interlock.Proofs.Statement.Chain
import Interlock.Proofs.Statement.Diagnosis
import Interlock.Proofs.Statement.Grammar
import Interlock.Proofs.Statement.Meaning
import Interlock.Proofs.Statement.Offence
import Interlock.Proofs.Statement.Position
import Interlock.Proofs.Statement.Trace
import Interlock.Proofs.Text.Decimal
import Interlock.Proofs.Text.Encoding
import Interlock.Proofs.Text.Lines
import Interlock.Proofs.Text.Run
import Interlock.Proofs.Token.Locality
import Interlock.Proofs.Token.Run
import Interlock.Proofs.Token.Shape
import Interlock.Proofs.Token.Tiling
import Interlock.Report
import Interlock.Rule
import Interlock.RuleFile
import Interlock.RuleSet
import Interlock.Session
import Interlock.Shell
import Interlock.Shell.Brackets
import Interlock.Shell.Highlight
import Interlock.Shell.Run
import Interlock.Shell.Script
import Interlock.Statement
import Interlock.Statement.Chain
import Interlock.Text.Backspace
import Interlock.Text.Blank
import Interlock.Text.Cluster
import Interlock.Text.ClusterBreak
import Interlock.Text.Cut
import Interlock.Text.Decimal
import Interlock.Text.Offset
import Interlock.Text.Quoted
import Interlock.Text.Unicode
import Interlock.Token
import Interlock.Token.Scan
import Interlock.Traced
import Interlock.Value
import Interlock.Proofs.Operator.Relation
import Interlock.Proofs.Predicate.Negation
import Interlock.Proofs.Report.Relevance
import Interlock.Proofs.Report.Splitting
import Interlock.Proofs.Rule.Negation
