import DatasetLint.Binding.NodePath
import DatasetLint.Binding.ScalarType
import DatasetLint.Binding.Schema
import DatasetLint.Check
import DatasetLint.Check.Encoding
import DatasetLint.Check.Prefixes
import DatasetLint.CommandLine
import DatasetLint.Config.Discovery
import DatasetLint.Config.Node
import DatasetLint.Config.Parameters
import DatasetLint.Dataset
import DatasetLint.Decimal.Floating
import DatasetLint.Decimal.Integer
import DatasetLint.Decimal.Layout
import DatasetLint.Decimal.Numeral
import DatasetLint.Decimal.Shortest
import DatasetLint.Files.Path
import DatasetLint.Files.System
import DatasetLint.Files.Uri
import DatasetLint.Main
import DatasetLint.Pattern
import DatasetLint.Pattern.Bracket
import DatasetLint.Pattern.Escape
import DatasetLint.Pattern.Flags
import DatasetLint.Pattern.Grammar
import DatasetLint.Pattern.Property
import DatasetLint.Pattern.Regex
import DatasetLint.Pattern.Size
import DatasetLint.Problem
import DatasetLint.ProblemTable
import DatasetLint.Proofs.Binding.Conforming
import DatasetLint.Proofs.Binding.Culprit
import DatasetLint.Proofs.Binding.Displayed
import DatasetLint.Proofs.Binding.Faults
import DatasetLint.Proofs.Binding.Fields
import DatasetLint.Proofs.Binding.Meaning
import DatasetLint.Proofs.Binding.Relocation
import DatasetLint.Proofs.Binding.Scalars
import DatasetLint.Proofs.Check.Breaches
import DatasetLint.Proofs.Check.Declarations
import DatasetLint.Proofs.Check.Expression
import DatasetLint.Proofs.Check.Flaws
import DatasetLint.Proofs.Check.Independence
import DatasetLint.Proofs.Check.Inheritance
import DatasetLint.Proofs.Check.Lines
import DatasetLint.Proofs.Check.NoText
import DatasetLint.Proofs.Check.Sections
import DatasetLint.Proofs.Config.Declared
import DatasetLint.Proofs.Config.Integers
import DatasetLint.Proofs.Config.Nodes
import DatasetLint.Proofs.Config.Numbers
import DatasetLint.Proofs.Config.Plain
import DatasetLint.Proofs.Config.Precedence
import DatasetLint.Proofs.Config.Scalars
import DatasetLint.Proofs.Config.Validation
import DatasetLint.Proofs.Dataset.Added
import DatasetLint.Proofs.Dataset.Collected
import DatasetLint.Proofs.Dataset.Names
import DatasetLint.Proofs.Dataset.OneFile
import DatasetLint.Proofs.Dataset.Traversal
import DatasetLint.Proofs.Decimal.Integer
import DatasetLint.Proofs.Decimal.Layout
import DatasetLint.Proofs.Decimal.Literal
import DatasetLint.Proofs.Decimal.Rounding
import DatasetLint.Proofs.Decimal.Shortest
import DatasetLint.Proofs.Files.Added
import DatasetLint.Proofs.Files.Below
import DatasetLint.Proofs.Files.Order
import DatasetLint.Proofs.Files.Outside
import DatasetLint.Proofs.Files.Path
import DatasetLint.Proofs.Files.RoundTrip
import DatasetLint.Proofs.Files.Steps
import DatasetLint.Proofs.Files.Uri
import DatasetLint.Proofs.Files.Written
import DatasetLint.Proofs.Pattern.Captures
import DatasetLint.Proofs.Pattern.Matcher
import DatasetLint.Proofs.Pattern.Reading
import DatasetLint.Proofs.Problems.History
import DatasetLint.Proofs.Problems.Literal
import DatasetLint.Proofs.Problems.Suppression
import DatasetLint.Proofs.Problems.Table
import DatasetLint.Proofs.Refusal
import DatasetLint.Proofs.Report.Escapes
import DatasetLint.Proofs.Report.Human
import DatasetLint.Proofs.Report.Json
import DatasetLint.Proofs.Report.NotificationLines
import DatasetLint.Proofs.Report.ResourceUris
import DatasetLint.Proofs.Report.RoundTrip
import DatasetLint.Proofs.Report.Structured
import DatasetLint.Proofs.Run.ExitCode
import DatasetLint.Proofs.Run.ReportFile
import DatasetLint.Proofs.Run.Shares
import DatasetLint.Proofs.Text.Order
import DatasetLint.Proofs.Text.Pieces
import DatasetLint.Proofs.Text.Prefix
import DatasetLint.Proofs.Text.Span
import DatasetLint.Proofs.Unicode.Case
import DatasetLint.Proofs.Unicode.CharSet
import DatasetLint.Proofs.Yaml.Blank
import DatasetLint.Proofs.Yaml.Block
import DatasetLint.Proofs.Yaml.Entry
import DatasetLint.Proofs.Yaml.Fields
import DatasetLint.Proofs.Yaml.Integers
import DatasetLint.Proofs.Yaml.Keys
import DatasetLint.Proofs.Yaml.Layout
import DatasetLint.Proofs.Yaml.Marked
import DatasetLint.Proofs.Yaml.Meaning
import DatasetLint.Proofs.Yaml.Pieces
import DatasetLint.Proofs.Yaml.Places
import DatasetLint.Proofs.Yaml.Plain
import DatasetLint.Proofs.Yaml.Quoted
import DatasetLint.Proofs.Yaml.Reading
import DatasetLint.Proofs.Yaml.Scan
import DatasetLint.Proofs.Yaml.Style
import DatasetLint.Proofs.Yaml.Tagless
import DatasetLint.Proofs.Yaml.Tree
import DatasetLint.Report.Diagnostics
import DatasetLint.Report.Document
import DatasetLint.Report.Format
import DatasetLint.Report.Human
import DatasetLint.Report.Json
import DatasetLint.Report.Json.Reader
import DatasetLint.Report.Structured
import DatasetLint.Report.Style
import DatasetLint.Run
import DatasetLint.RunError
import DatasetLint.Stage
import DatasetLint.Suppression
import DatasetLint.Terminal
import DatasetLint.Text.Blank
import DatasetLint.Text.Pieces
import DatasetLint.Text.Quoted
import DatasetLint.Text.Utf8
import DatasetLint.Unicode.Case
import DatasetLint.Unicode.Category
import DatasetLint.Unicode.CharSet
import DatasetLint.Unicode.Property
import DatasetLint.Unicode.Script
import DatasetLint.Yaml.Document
import DatasetLint.Yaml.Error
import DatasetLint.Yaml.Node
import DatasetLint.Yaml.Node.Grammar
import DatasetLint.Yaml.Reader
import DatasetLint.Yaml.Scalar
import DatasetLint.Yaml.Source
import DatasetLint.Yaml.Token
import DatasetLint.Yaml.Token.Property
import DatasetLint.Yaml.Token.Scalar
import DatasetLint.Yaml.Token.Stream
import DatasetLint.Yaml.Value
import DatasetLint.Yaml.Writer
import DatasetLint.Yaml.Writer.Scalar
