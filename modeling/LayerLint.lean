import LayerLint.CommandLine.Arguments
import LayerLint.CommandLine.Help
import LayerLint.CommandLine.Invocation
import LayerLint.CommandLine.Parameter
import LayerLint.Console.Theme
import LayerLint.Console.Transcript
import LayerLint.FileStore
import LayerLint.FileStore.Memory
import LayerLint.FileStore.Rooted
import LayerLint.FileStore.Snapshot
import LayerLint.FileStore.Tree
import LayerLint.Layout
import LayerLint.Lint.Diagnostic
import LayerLint.Lint.LayerCheck
import LayerLint.Lint.Listing
import LayerLint.Lint.Rule
import LayerLint.Lint.RuleSet
import LayerLint.Lint.Run
import LayerLint.Lint.TemplateCheck
import LayerLint.Main
import LayerLint.Number.Binary64
import LayerLint.Number.Decimal
import LayerLint.Pattern
import LayerLint.Pattern.Brackets
import LayerLint.Pattern.Cursor
import LayerLint.Pattern.Escape
import LayerLint.Pattern.Expression
import LayerLint.Pattern.Fault
import LayerLint.Pattern.Property
import LayerLint.Pattern.Reader
import LayerLint.Pattern.Tree
import LayerLint.Proofs.FileStore.Change
import LayerLint.Proofs.FileStore.Disk
import LayerLint.Proofs.FileStore.Listing
import LayerLint.Proofs.FileStore.Memory
import LayerLint.Proofs.FileStore.Tree
import LayerLint.Proofs.FileStore.Walk
import LayerLint.Proofs.Lint.Advice
import LayerLint.Proofs.Lint.Apart
import LayerLint.Proofs.Lint.BaseReaders
import LayerLint.Proofs.Lint.Finding
import LayerLint.Proofs.Lint.Includes
import LayerLint.Proofs.Lint.Overbroad
import LayerLint.Proofs.Lint.Overshadow
import LayerLint.Proofs.Lint.Removal
import LayerLint.Proofs.Lint.RunOrder
import LayerLint.Proofs.Lint.Selection
import LayerLint.Proofs.Lint.Undefined
import LayerLint.Proofs.Lint.UnusedBase
import LayerLint.Proofs.Lint.UnusedOverride
import LayerLint.Proofs.Lint.Verdict
import LayerLint.Proofs.Lint.WholeNumber
import LayerLint.Proofs.Number.Nearest
import LayerLint.Proofs.Report.Colour
import LayerLint.Proofs.Report.Faithful
import LayerLint.Proofs.Report.Order
import LayerLint.Proofs.Repository.Answers
import LayerLint.Proofs.Repository.Closure
import LayerLint.Proofs.Repository.Directory
import LayerLint.Proofs.Repository.Encounter
import LayerLint.Proofs.Repository.Inventory
import LayerLint.Proofs.Repository.Isolation
import LayerLint.Proofs.Repository.Load
import LayerLint.Proofs.Repository.Naming
import LayerLint.Proofs.Repository.Outside
import LayerLint.Proofs.Repository.Reach
import LayerLint.Proofs.Settings.Exchange
import LayerLint.Proofs.Survey.Isolation
import LayerLint.Proofs.Survey.Stray
import LayerLint.Proofs.Survey.Supply
import LayerLint.Proofs.Survey.Usage
import LayerLint.Proofs.Template.Calls
import LayerLint.Proofs.Template.Content
import LayerLint.Proofs.Template.Context
import LayerLint.Proofs.Template.Count
import LayerLint.Proofs.Template.Division
import LayerLint.Proofs.Template.Fault
import LayerLint.Proofs.Template.Format
import LayerLint.Proofs.Template.Grammar
import LayerLint.Proofs.Template.Numeral
import LayerLint.Proofs.Template.Parenthesis
import LayerLint.Proofs.Template.Parser
import LayerLint.Proofs.Template.Paths
import LayerLint.Proofs.Template.Plain
import LayerLint.Proofs.Template.Progress
import LayerLint.Proofs.Template.Safety
import LayerLint.Proofs.Template.Scope
import LayerLint.Proofs.Template.Skeleton
import LayerLint.Proofs.Template.Spelling
import LayerLint.Proofs.Template.Stage
import LayerLint.Proofs.Template.Strict
import LayerLint.Proofs.Template.Visit
import LayerLint.Proofs.Template.Writable
import LayerLint.Proofs.Template.Written
import LayerLint.Proofs.Text.Digits
import LayerLint.Proofs.Text.Lines
import LayerLint.Proofs.Text.Utf8
import LayerLint.Proofs.Value.Navigation
import LayerLint.Proofs.Value.Normal
import LayerLint.Report.Basic
import LayerLint.Report.Format
import LayerLint.Report.Json
import LayerLint.Report.JsonTree
import LayerLint.Report.Prose
import LayerLint.Repository.Basic
import LayerLint.Repository.Closure
import LayerLint.Repository.Encounter
import LayerLint.Repository.Layer
import LayerLint.Repository.Load
import LayerLint.Repository.LoadError
import LayerLint.Repository.Overshadow
import LayerLint.Repository.Survey
import LayerLint.Repository.TemplateFile
import LayerLint.Settings.Basic
import LayerLint.Settings.File
import LayerLint.SortedMap
import LayerLint.Template.Analysis
import LayerLint.Template.Datum
import LayerLint.Template.Format
import LayerLint.Template.Item
import LayerLint.Template.Parser
import LayerLint.Template.Reference
import LayerLint.Template.Render
import LayerLint.Template.Stage
import LayerLint.Template.Token
import LayerLint.Template.Tree
import LayerLint.Template.Vocabulary
import LayerLint.Text.Affix
import LayerLint.Text.Blank
import LayerLint.Text.Cut
import LayerLint.Text.Hidden
import LayerLint.Text.Letter
import LayerLint.Text.Lowercase
import LayerLint.Text.Quoted
import LayerLint.Text.Range
import LayerLint.Text.Utf8
import LayerLint.Value.Basic
import LayerLint.Value.Flatten
import LayerLint.Value.Path
import LayerLint.Yaml.Compose
import LayerLint.Yaml.Document
import LayerLint.Yaml.Event
import LayerLint.Yaml.Fault
import LayerLint.Yaml.Mark
import LayerLint.Yaml.Node
import LayerLint.Yaml.Record
import LayerLint.Yaml.Scalar
import LayerLint.Yaml.Source
import LayerLint.Yaml.Token
import LayerLint.Yaml.Token.Property
import LayerLint.Yaml.Token.Scalar
import LayerLint.Yaml.Token.Scanner
import LayerLint.Yaml.Token.Stream
