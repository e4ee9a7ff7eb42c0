import Scorecard.Assoc
import Scorecard.Benchmark.Basic
import Scorecard.Benchmark.Run
import Scorecard.Benchmark.Selection
import Scorecard.Check.Basic
import Scorecard.Check.Catalog
import Scorecard.Check.Execution
import Scorecard.Check.Registry
import Scorecard.Check.Standard
import Scorecard.Client
import Scorecard.CommandLine.Basic
import Scorecard.CommandLine.Catalog
import Scorecard.CommandLine.Diagnosis
import Scorecard.Configuration
import Scorecard.Context
import Scorecard.Csv
import Scorecard.Datum
import Scorecard.Decimal.Binary
import Scorecard.Decimal.Fixed
import Scorecard.Decimal.Numeral
import Scorecard.Decimal.Shortest
import Scorecard.Expr.Basic
import Scorecard.Expr.Parser
import Scorecard.Expr.Token
import Scorecard.Fault
import Scorecard.Figure
import Scorecard.Folder.Basic
import Scorecard.Folder.Load
import Scorecard.Inputs
import Scorecard.Insight.Basic
import Scorecard.Insight.KpiFields
import Scorecard.Insight.Order
import Scorecard.Insight.Run
import Scorecard.Json.Printer
import Scorecard.Json.Reader
import Scorecard.Kpi
import Scorecard.Main
import Scorecard.Path
import Scorecard.Proofs.Assoc
import Scorecard.Proofs.Benchmark.Divisor
import Scorecard.Proofs.Benchmark.Monotone
import Scorecard.Proofs.Benchmark.Rating
import Scorecard.Proofs.Benchmark.Run
import Scorecard.Proofs.Benchmark.Selection
import Scorecard.Proofs.Benchmark.Spelling
import Scorecard.Proofs.Benchmark.Wildcard
import Scorecard.Proofs.Check.Agreement
import Scorecard.Proofs.Check.Dependence
import Scorecard.Proofs.Check.Depth
import Scorecard.Proofs.Check.Dispatch
import Scorecard.Proofs.Check.Figures
import Scorecard.Proofs.Check.Outcome
import Scorecard.Proofs.Check.Registry
import Scorecard.Proofs.Check.Spelling
import Scorecard.Proofs.Check.Standard
import Scorecard.Proofs.Check.Written
import Scorecard.Proofs.Datum
import Scorecard.Proofs.Decimal.Arithmetic
import Scorecard.Proofs.Decimal.Fixed
import Scorecard.Proofs.Decimal.Nearest
import Scorecard.Proofs.Decimal.Numeral
import Scorecard.Proofs.Decimal.Order
import Scorecard.Proofs.Decimal.Positional
import Scorecard.Proofs.Decimal.Range
import Scorecard.Proofs.Decimal.Rounding
import Scorecard.Proofs.Decimal.Scientific
import Scorecard.Proofs.Decimal.Special
import Scorecard.Proofs.Decimal.View
import Scorecard.Proofs.Expr.Decomposition
import Scorecard.Proofs.Expr.Depth
import Scorecard.Proofs.Expr.Evaluation
import Scorecard.Proofs.Expr.Grammar
import Scorecard.Proofs.Expr.Hole
import Scorecard.Proofs.Expr.Lexer
import Scorecard.Proofs.Expr.Operands
import Scorecard.Proofs.Expr.Parentheses
import Scorecard.Proofs.Expr.Parser
import Scorecard.Proofs.Expr.Spelling
import Scorecard.Proofs.Expr.Written
import Scorecard.Proofs.Figure
import Scorecard.Proofs.Figure.Canonical
import Scorecard.Proofs.Figure.ReadBack
import Scorecard.Proofs.Figure.Sign
import Scorecard.Proofs.FirstSeen
import Scorecard.Proofs.Insight.Fields
import Scorecard.Proofs.Insight.Firing
import Scorecard.Proofs.Insight.FirstSpelling
import Scorecard.Proofs.Insight.Order
import Scorecard.Proofs.Insight.Prefixes
import Scorecard.Proofs.Insight.Recommendations
import Scorecard.Proofs.Insight.Run
import Scorecard.Proofs.Insight.Sections
import Scorecard.Proofs.Insight.Spelling
import Scorecard.Proofs.Insight.Universal
import Scorecard.Proofs.Insight.Unranked
import Scorecard.Proofs.Insight.Writing
import Scorecard.Proofs.Readings
import Scorecard.Proofs.Readings.Map
import Scorecard.Proofs.Readings.Pairs
import Scorecard.Proofs.Run.Basic
import Scorecard.Proofs.Run.Faults
import Scorecard.Proofs.Run.Figures
import Scorecard.Proofs.Run.Grounds
import Scorecard.Proofs.Run.Order
import Scorecard.Proofs.Run.Spelling
import Scorecard.Proofs.Sequence
import Scorecard.Proofs.Sheet.Advice
import Scorecard.Proofs.Sheet.Cells
import Scorecard.Proofs.Sheet.Columns
import Scorecard.Proofs.Sheet.Faults
import Scorecard.Proofs.Sheet.Load
import Scorecard.Proofs.Sheet.Numbered
import Scorecard.Proofs.Sheet.Numbers
import Scorecard.Proofs.Sheet.Readings
import Scorecard.Proofs.Sheet.Row
import Scorecard.Proofs.Sheet.Unwritable
import Scorecard.Proofs.Template
import Scorecard.Proofs.Text.Case
import Scorecard.Proofs.Text.Space
import Scorecard.Proofs.Text.Split
import Scorecard.Proofs.Text.UpperCase
import Scorecard.Proofs.Trigger.Condition
import Scorecard.Proofs.Trigger.Join
import Scorecard.Proofs.Trigger.Misplaced
import Scorecard.Proofs.Trigger.Parse
import Scorecard.Proofs.Trigger.Separator
import Scorecard.Proofs.Validation
import Scorecard.Proofs.Validation.Run
import Scorecard.Rating
import Scorecard.Readings
import Scorecard.Report.Basic
import Scorecard.Report.Document
import Scorecard.Report.Markdown
import Scorecard.Report.Run
import Scorecard.Report.Stamp
import Scorecard.Schema.Basic
import Scorecard.Schema.Settings
import Scorecard.Settings
import Scorecard.Sheet.Definitions
import Scorecard.Sheet.Load
import Scorecard.Sheet.Readings
import Scorecard.Sheet.Row
import Scorecard.Sheet.Rules
import Scorecard.Status
import Scorecard.Template
import Scorecard.Text.Case
import Scorecard.Text.CaseTable
import Scorecard.Text.Digit
import Scorecard.Text.Name
import Scorecard.Text.PrintTable
import Scorecard.Text.Quoted
import Scorecard.Text.Space
import Scorecard.Text.Span
import Scorecard.Text.Split
import Scorecard.Trigger
import Scorecard.Validation
import Scorecard.Warning
import Scorecard.Yaml.Block
import Scorecard.Yaml.Cursor
import Scorecard.Yaml.Flow
import Scorecard.Yaml.Node
import Scorecard.Yaml.Quoted
import Scorecard.Yaml.Reader
import Scorecard.Yaml.Scalar
