import StyleAudit.Audit
import StyleAudit.Battery
import StyleAudit.Collection
import StyleAudit.Command.Args
import StyleAudit.Command.Format
import StyleAudit.Command.Run
import StyleAudit.Count
import StyleAudit.Declaration.Marker
import StyleAudit.Declaration.Pattern
import StyleAudit.Declaration.Scan
import StyleAudit.Disk
import StyleAudit.Failure
import StyleAudit.Log
import StyleAudit.Mail.Address
import StyleAudit.Mail.Domain.Direction
import StyleAudit.Mail.Domain.Folding
import StyleAudit.Mail.Domain.Host
import StyleAudit.Mail.Domain.Joining
import StyleAudit.Mail.Domain.Name
import StyleAudit.Mail.Domain.Punycode
import StyleAudit.Mail.Envelope
import StyleAudit.Mail.Smtp
import StyleAudit.Main
import StyleAudit.Moment
import StyleAudit.Nesting
import StyleAudit.Path
import StyleAudit.Proofs.Audit.Outcome
import StyleAudit.Proofs.Audit.Series
import StyleAudit.Proofs.Audit.Stability
import StyleAudit.Proofs.Battery.Accepted
import StyleAudit.Proofs.Battery.Account
import StyleAudit.Proofs.Battery.Complete
import StyleAudit.Proofs.Battery.FailingSource
import StyleAudit.Proofs.Battery.Insertion
import StyleAudit.Proofs.Battery.Isolation
import StyleAudit.Proofs.Battery.Margin
import StyleAudit.Proofs.Battery.Order
import StyleAudit.Proofs.Battery.Terminator
import StyleAudit.Proofs.Collection.Search
import StyleAudit.Proofs.Collection.Sources
import StyleAudit.Proofs.Declaration.Depth
import StyleAudit.Proofs.Declaration.FrontEnd
import StyleAudit.Proofs.Declaration.Lexeme
import StyleAudit.Proofs.Declaration.Located
import StyleAudit.Proofs.Declaration.Marker
import StyleAudit.Proofs.Declaration.Name
import StyleAudit.Proofs.Declaration.Record
import StyleAudit.Proofs.Declaration.Signature
import StyleAudit.Proofs.Declaration.Symbol
import StyleAudit.Proofs.Declaration.TypeWord
import StyleAudit.Proofs.Declaration.Variable
import StyleAudit.Proofs.Declaration.VariableEnd
import StyleAudit.Proofs.Disk.Growth
import StyleAudit.Proofs.Disk.Joined
import StyleAudit.Proofs.Disk.Resolve
import StyleAudit.Proofs.Disk.Tree
import StyleAudit.Proofs.Log.Creation
import StyleAudit.Proofs.Log.Entries
import StyleAudit.Proofs.Log.FreeName
import StyleAudit.Proofs.Nesting.Reachable
import StyleAudit.Proofs.Nesting.Scope
import StyleAudit.Proofs.Nesting.WellNested
import StyleAudit.Proofs.Path.Name
import StyleAudit.Proofs.Path.Order
import StyleAudit.Proofs.Report.Csv
import StyleAudit.Proofs.Report.Drawn
import StyleAudit.Proofs.Report.Field
import StyleAudit.Proofs.Report.Json
import StyleAudit.Proofs.Report.JsonGrammar
import StyleAudit.Proofs.Report.JsonReader
import StyleAudit.Proofs.Report.MailReader
import StyleAudit.Proofs.Report.MarkupReader
import StyleAudit.Proofs.Report.Shown
import StyleAudit.Proofs.Report.Sorted
import StyleAudit.Proofs.Report.Summary
import StyleAudit.Proofs.Report.Tally
import StyleAudit.Proofs.Report.Views
import StyleAudit.Proofs.Rule.Anchor
import StyleAudit.Proofs.Rule.Case
import StyleAudit.Proofs.Rule.Inclusion
import StyleAudit.Proofs.Rule.Indentation
import StyleAudit.Proofs.Rule.Insertion
import StyleAudit.Proofs.Rule.Label
import StyleAudit.Proofs.Rule.LineEnding
import StyleAudit.Proofs.Rule.Margin
import StyleAudit.Proofs.Rule.Measured
import StyleAudit.Proofs.Rule.Order
import StyleAudit.Proofs.Rule.Repetition
import StyleAudit.Proofs.Rule.Reuse
import StyleAudit.Proofs.Settings.Accepted
import StyleAudit.Proofs.Settings.Nearest
import StyleAudit.Proofs.Sorting
import StyleAudit.Proofs.Source.Cut
import StyleAudit.Proofs.Source.Lines
import StyleAudit.Proofs.Source.Render
import StyleAudit.Proofs.Source.Terminator
import StyleAudit.Proofs.Text.Ascii
import StyleAudit.Proofs.Text.Blank
import StyleAudit.Proofs.Text.Grammar
import StyleAudit.Proofs.Text.Letter
import StyleAudit.Proofs.Text.Numeral
import StyleAudit.Proofs.Text.Utf8
import StyleAudit.Report.Basic
import StyleAudit.Report.Csv
import StyleAudit.Report.Json
import StyleAudit.Report.Markup
import StyleAudit.Report.Summary
import StyleAudit.Report.Table
import StyleAudit.Report.Yaml
import StyleAudit.Report.YamlScalar
import StyleAudit.Rule.Catalog
import StyleAudit.Rule.Check
import StyleAudit.Rule.Consistency
import StyleAudit.Rule.Inclusion
import StyleAudit.Rule.Layout
import StyleAudit.Rule.Naming
import StyleAudit.Rule.Session
import StyleAudit.Rule.Structure
import StyleAudit.Settings.Basic
import StyleAudit.Settings.Decode
import StyleAudit.Settings.Describe
import StyleAudit.Settings.Load
import StyleAudit.Source.Document
import StyleAudit.Source.Language
import StyleAudit.Text.Binary64
import StyleAudit.Text.Blank
import StyleAudit.Text.CodeMap
import StyleAudit.Text.CodeSet
import StyleAudit.Text.Columns
import StyleAudit.Text.Composed
import StyleAudit.Text.Letter
import StyleAudit.Text.Lines
import StyleAudit.Text.Mark
import StyleAudit.Text.Number
import StyleAudit.Text.Numeral
import StyleAudit.Text.Printable
import StyleAudit.Text.Quoted
import StyleAudit.Text.Utf8
import StyleAudit.Text.Width
import StyleAudit.Text.Word
import StyleAudit.Toml.Document
import StyleAudit.Toml.Lexeme
import StyleAudit.Toml.Schema
import StyleAudit.Toml.Value
import StyleAudit.Tool.Basic
import StyleAudit.Tool.Leak
import StyleAudit.Tool.Preprocessor
import StyleAudit.Tool.Shell
import StyleAudit.Tool.Shell.Arithmetic
import StyleAudit.Tool.Shell.Builtin
import StyleAudit.Tool.Shell.Cat
import StyleAudit.Tool.Shell.Condition
import StyleAudit.Tool.Shell.Expression
import StyleAudit.Tool.Shell.Filter
import StyleAudit.Tool.Shell.Glyph
import StyleAudit.Tool.Shell.Printed
import StyleAudit.Tool.Shell.Redirect
import StyleAudit.Tool.Shell.Run
import StyleAudit.Tool.Shell.Script
import StyleAudit.Tool.Shell.ScriptReader
import StyleAudit.Tool.Shell.Signal
import StyleAudit.Tool.Shell.State
import StyleAudit.Tool.Shell.Wildcard
