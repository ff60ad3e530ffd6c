import AuditRules.Audit
import AuditRules.Binary64
import AuditRules.Binary64.Shortest
import AuditRules.CommandLine
import AuditRules.Comparator
import AuditRules.Comparator.Boolean
import AuditRules.Comparator.Mapping
import AuditRules.Comparator.Number
import AuditRules.Comparator.Sequence
import AuditRules.Comparator.Text
import AuditRules.Evaluation
import AuditRules.Event
import AuditRules.FileTree
import AuditRules.Fixture
import AuditRules.Fixture.Discovery
import AuditRules.Json.Document
import AuditRules.Json.Numeral
import AuditRules.Json.Reader
import AuditRules.Json.Record
import AuditRules.Json.Writer
import AuditRules.Limits
import AuditRules.Limits.Document
import AuditRules.ListRule
import AuditRules.Main
import AuditRules.NumberExpression
import AuditRules.Pattern
import AuditRules.Pattern.Bracket
import AuditRules.Pattern.CharClass
import AuditRules.Pattern.Cursor
import AuditRules.Pattern.Error
import AuditRules.Pattern.Escape
import AuditRules.Pattern.Parser
import AuditRules.Proofs.Audit
import AuditRules.Proofs.Binary64
import AuditRules.Proofs.Comparator
import AuditRules.Proofs.Comparator.Delegates
import AuditRules.Proofs.Comparator.Exactly
import AuditRules.Proofs.Comparator.Keyed
import AuditRules.Proofs.Comparator.Local
import AuditRules.Proofs.Comparator.Reading
import AuditRules.Proofs.Comparator.Related
import AuditRules.Proofs.Comparator.Satisfies
import AuditRules.Proofs.Comparator.Sequence
import AuditRules.Proofs.Evaluation
import AuditRules.Proofs.Evaluation.Related
import AuditRules.Proofs.Number
import AuditRules.Proofs.Registry
import AuditRules.Proofs.Registry.Extension
import AuditRules.Proofs.Registry.Filtered
import AuditRules.Proofs.Registry.Inapplicable
import AuditRules.Proofs.Registry.Limits
import AuditRules.Proofs.Registry.Nesting
import AuditRules.Proofs.Registry.Parallel
import AuditRules.Proofs.Registry.Reading
import AuditRules.Proofs.Registry.Registration
import AuditRules.Proofs.Registry.Related
import AuditRules.Proofs.Registry.Reordered
import AuditRules.Proofs.Registry.WellFormed
import AuditRules.Proofs.Report
import AuditRules.Proofs.Rule
import AuditRules.Proofs.Rule.WellFormed
import AuditRules.Proofs.StableSort
import AuditRules.Proofs.Value
import AuditRules.Proofs.Value.Correspondence
import AuditRules.Proofs.Value.Depth
import AuditRules.Proofs.Value.Order
import AuditRules.Proofs.Value.Reordered
import AuditRules.Quantity.Text
import AuditRules.Registry
import AuditRules.Report
import AuditRules.Rule
import AuditRules.RuleError
import AuditRules.StableSort
import AuditRules.Text.Blank
import AuditRules.Text.Category.Table
import AuditRules.Text.CharSet
import AuditRules.Text.Digits
import AuditRules.Text.Folding
import AuditRules.Text.LetterCase
import AuditRules.Text.LetterCase.Table
import AuditRules.Text.Property
import AuditRules.Text.Property.Table
import AuditRules.Text.Quoted
import AuditRules.Text.Quoted.Table
import AuditRules.Text.Script.Table
import AuditRules.Timestamp
import AuditRules.Toml.Lexeme
import AuditRules.Toml.Reader
import AuditRules.Toml.Table
import AuditRules.Value
import AuditRules.Value.Equality
import AuditRules.Value.Order
import AuditRules.Value.Render
import AuditRules.Value.Shape
import AuditRules.Verdict
import AuditRules.Verdict.Json
import AuditRules.Proofs.Registry.Satisfies
import AuditRules.Proofs.Comparator.Mapping
import AuditRules.Proofs.Comparator.Messages
import AuditRules.Proofs.Comparator.Events
import AuditRules.Proofs.Registry.Events
import AuditRules.Proofs.Registry.Mapping
import AuditRules.Proofs.Registry.Messages
import AuditRules.Proofs.Text.LetterCase
import AuditRules.Proofs.Evaluation.Compatible
import AuditRules.Proofs.Registry.Paired
import AuditRules.Proofs.Registry.PatternOrder
import AuditRules.Proofs.Value.Lowered
import AuditRules.Proofs.Comparator.Lowered
import AuditRules.Proofs.Registry.Lowered
import AuditRules.Proofs.Registry.Modes
import AuditRules.Proofs.Registry.Layers
import AuditRules.Proofs.Comparator.IgnoredCase
import AuditRules.Proofs.Registry.IgnoredCase
import AuditRules.Proofs.Registry.Whole
import AuditRules.Proofs.Registry.Integers
import AuditRules.Proofs.Value.Equality
import AuditRules.Proofs.Value.Lawful
import AuditRules.Proofs.Number.Whole
import AuditRules.Proofs.Comparator.Grammar
import AuditRules.Proofs.Comparator.Alternatives
import AuditRules.Proofs.Limits
import AuditRules.Proofs.Registry.Size
import AuditRules.Proofs.Value.Symmetry
import AuditRules.Proofs.Fixture.Discovery
import AuditRules.Proofs.Report.Text
import AuditRules.Proofs.Fixture
import AuditRules.Proofs.Registry.Sortable
