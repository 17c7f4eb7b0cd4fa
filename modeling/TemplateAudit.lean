import TemplateAudit.Ascending
import TemplateAudit.CommandLine
import TemplateAudit.Config
import TemplateAudit.Engine
import TemplateAudit.Evaluation
import TemplateAudit.Expression.Basic
import TemplateAudit.Expression.Evaluate
import TemplateAudit.Expression.Reader
import TemplateAudit.FilePath
import TemplateAudit.Files.Access
import TemplateAudit.Files.Rules
import TemplateAudit.Files.System
import TemplateAudit.Files.Tree
import TemplateAudit.Json.Agreement
import TemplateAudit.Json.Basic
import TemplateAudit.Json.Error
import TemplateAudit.Json.Numeral
import TemplateAudit.Json.Parser
import TemplateAudit.Json.Printer
import TemplateAudit.Json.Reading
import TemplateAudit.LineIndex
import TemplateAudit.Location
import TemplateAudit.Main
import TemplateAudit.Number.Basic
import TemplateAudit.Number.Binary64
import TemplateAudit.Number.Decimal
import TemplateAudit.Number.Shortest
import TemplateAudit.Operator
import TemplateAudit.Path
import TemplateAudit.Pattern.Basic
import TemplateAudit.Pattern.Bracket
import TemplateAudit.Pattern.CharSet
import TemplateAudit.Pattern.Escape
import TemplateAudit.Pattern.Parser
import TemplateAudit.Pattern.Size
import TemplateAudit.Report.Basic
import TemplateAudit.Report.Console
import TemplateAudit.Report.Sarif
import TemplateAudit.Report.Writer
import TemplateAudit.Resolver
import TemplateAudit.Rule.Builtin
import TemplateAudit.Rule.Metadata
import TemplateAudit.Rule.RuleSet
import TemplateAudit.Rule.Schema
import TemplateAudit.Rule.Validate
import TemplateAudit.Run
import TemplateAudit.Scope
import TemplateAudit.Settings
import TemplateAudit.Template
import TemplateAudit.Text.Blank
import TemplateAudit.Text.Case
import TemplateAudit.Text.Quoted
import TemplateAudit.Toml.Basic
import TemplateAudit.Toml.Parser
import TemplateAudit.Toml.Text
import TemplateAudit.Unicode.CaseMap
import TemplateAudit.Unicode.Category
import TemplateAudit.Unicode.Property
import TemplateAudit.Unicode.Runs
import TemplateAudit.Unicode.Script
import TemplateAudit.Proofs.Expression.Descent
import TemplateAudit.Proofs.Expression.Verdict
import TemplateAudit.Proofs.Evaluation.Coherence
import TemplateAudit.Proofs.Document.LastWritten
import TemplateAudit.Proofs.Document.Walk
import TemplateAudit.Proofs.Document.Layout
import TemplateAudit.Proofs.Document.Places
import TemplateAudit.Proofs.Document.Reading
import TemplateAudit.Proofs.Document.Spelling
import TemplateAudit.Proofs.Document.Sorted
import TemplateAudit.Proofs.Document.Printing
import TemplateAudit.Proofs.Lines.Decoding
import TemplateAudit.Proofs.Lines.Tokens
import TemplateAudit.Proofs.Lines.Pass
import TemplateAudit.Proofs.Lines.Suffixes
import TemplateAudit.Proofs.Lines.Notes
import TemplateAudit.Proofs.Lines.Simulation
import TemplateAudit.Proofs.Lines.Agreement
import TemplateAudit.Proofs.Document.Ordered
import TemplateAudit.Proofs.Scope.Exact
import TemplateAudit.Proofs.Expression.Judged
import TemplateAudit.Proofs.Lines.Attribution
import TemplateAudit.Proofs.Scope.Reached
import TemplateAudit.Proofs.Lines.Fallback
import TemplateAudit.Proofs.Evaluation.Chains
import TemplateAudit.Proofs.Expression.Vacuous
import TemplateAudit.Proofs.Report.Writers
import TemplateAudit.Proofs.Report.Text
import TemplateAudit.Proofs.Report.Agreement
import TemplateAudit.Proofs.Scope.Nested
import TemplateAudit.Proofs.Number.Ranks
import TemplateAudit.Proofs.Number.Shortest
import TemplateAudit.Proofs.Number.Decimals
import TemplateAudit.Proofs.Number.Order
import TemplateAudit.Proofs.Document.Agreement
import TemplateAudit.Proofs.Evaluation.Findings
import TemplateAudit.Proofs.Expression.ScopeByScope
import TemplateAudit.Proofs.Path.Reading
import TemplateAudit.Proofs.Scope.Joined
import TemplateAudit.Proofs.Expression.Hoisting
import TemplateAudit.Proofs.Document.Apart
import TemplateAudit.Proofs.Expression.LetterCase
import TemplateAudit.Proofs.Number.Whole
import TemplateAudit.Proofs.Number.Exact
import TemplateAudit.Proofs.Expression.Flattening
import TemplateAudit.Proofs.Files.Normal
import TemplateAudit.Proofs.Report.Artifacts
import TemplateAudit.Proofs.Report.Descriptions
import TemplateAudit.Proofs.Expression.Grammar
import TemplateAudit.Proofs.Rule.ExpressionSchema
import TemplateAudit.Proofs.Files.Effects
import TemplateAudit.Proofs.Rule.Selection
import TemplateAudit.Proofs.Files.Lookup
import TemplateAudit.Proofs.Run.Writing
import TemplateAudit.Proofs.Files.Deletion
import TemplateAudit.Proofs.Run.Directory
import TemplateAudit.Proofs.Rule.Merging
import TemplateAudit.Proofs.Evaluation.Traces
import TemplateAudit.Proofs.Path.Grammar
import TemplateAudit.Proofs.Path.Faults
import TemplateAudit.Proofs.Scope.Printed
import TemplateAudit.Proofs.Scope.Search
import TemplateAudit.Proofs.Scope.Increasing
import TemplateAudit.Proofs.Text.Containment
import TemplateAudit.Proofs.Text.AsciiCase
import TemplateAudit.Proofs.Document.Pairing
