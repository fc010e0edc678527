import MarkupLint.Command.Options
import MarkupLint.Command.Run
import MarkupLint.Config.Basic
import MarkupLint.Config.Document
import MarkupLint.Config.Error
import MarkupLint.Config.Setting
import MarkupLint.Decimal.Shortest
import MarkupLint.Directive
import MarkupLint.Issue
import MarkupLint.Json.Describe
import MarkupLint.Json.Field
import MarkupLint.Json.Lexeme
import MarkupLint.Json.Number
import MarkupLint.Json.Reader
import MarkupLint.Json.Value
import MarkupLint.Json.Writer
import MarkupLint.Language
import MarkupLint.Linter.Basic
import MarkupLint.Linter.Describe
import MarkupLint.Linter.Parser
import MarkupLint.Log
import MarkupLint.Main
import MarkupLint.Markup.Attributes
import MarkupLint.Markup.Codec
import MarkupLint.Markup.Cursor
import MarkupLint.Markup.Element
import MarkupLint.Markup.Event
import MarkupLint.Markup.Forest
import MarkupLint.Markup.Lexeme
import MarkupLint.Markup.Node
import MarkupLint.Markup.Position
import MarkupLint.Markup.Slice
import MarkupLint.Markup.Walk
import MarkupLint.NameMap
import MarkupLint.Output.FileReport
import MarkupLint.Output.JsonFormat
import MarkupLint.Output.Message
import MarkupLint.Output.TextFormat
import MarkupLint.Path.Expansion
import MarkupLint.Path.FileSystem
import MarkupLint.Path.FileTree
import MarkupLint.Path.Pattern
import MarkupLint.Proofs.Config.ApplyEffect
import MarkupLint.Proofs.Config.Applying
import MarkupLint.Proofs.Config.Invariant
import MarkupLint.Proofs.Config.ListForms
import MarkupLint.Proofs.Config.Reachable
import MarkupLint.Proofs.Config.Spellings
import MarkupLint.Proofs.Directive.Reason
import MarkupLint.Proofs.Directive.RuleList
import MarkupLint.Proofs.Directive.Union
import MarkupLint.Proofs.Directive.Written
import MarkupLint.Proofs.Json.Arrangement
import MarkupLint.Proofs.Json.Lexing
import MarkupLint.Proofs.Json.PlainText
import MarkupLint.Proofs.Json.RoundTrip
import MarkupLint.Proofs.Json.ScalarText
import MarkupLint.Proofs.Language.CanonicalForm
import MarkupLint.Proofs.Linter.Builtin
import MarkupLint.Proofs.Linter.Codec
import MarkupLint.Proofs.Linter.Engine
import MarkupLint.Proofs.Linter.Independence
import MarkupLint.Proofs.Linter.LineShift
import MarkupLint.Proofs.Linter.Placeholders
import MarkupLint.Proofs.Linter.Pointing
import MarkupLint.Proofs.Linter.Suppression
import MarkupLint.Proofs.Markup.Checked.RawText
import MarkupLint.Proofs.Markup.Checked.Reading
import MarkupLint.Proofs.Markup.Checked.Safety
import MarkupLint.Proofs.Markup.Checked.Scanner
import MarkupLint.Proofs.Markup.Checked.Text
import MarkupLint.Proofs.Markup.Codec
import MarkupLint.Proofs.Markup.DocumentOrder
import MarkupLint.Proofs.Markup.Elements
import MarkupLint.Proofs.Markup.Layout
import MarkupLint.Proofs.Markup.LexicalForm
import MarkupLint.Proofs.Markup.Located
import MarkupLint.Proofs.Markup.Lookup
import MarkupLint.Proofs.Markup.NodeCodec
import MarkupLint.Proofs.Markup.Nodes
import MarkupLint.Proofs.Markup.Offset
import MarkupLint.Proofs.Markup.Pairing
import MarkupLint.Proofs.Markup.Placeholders
import MarkupLint.Proofs.Markup.Placement
import MarkupLint.Proofs.Markup.RawContent
import MarkupLint.Proofs.Markup.Reading
import MarkupLint.Proofs.Markup.Rendering
import MarkupLint.Proofs.Markup.Rereading
import MarkupLint.Proofs.Markup.RoundTrip
import MarkupLint.Proofs.Markup.ShiftedForest
import MarkupLint.Proofs.Markup.ShiftedReading
import MarkupLint.Proofs.Markup.Tiling
import MarkupLint.Proofs.Markup.Walk
import MarkupLint.Proofs.NameMap
import MarkupLint.Proofs.Output.Colors
import MarkupLint.Proofs.Output.ReadBack
import MarkupLint.Proofs.Output.Totals
import MarkupLint.Proofs.Rule.AttributeValue
import MarkupLint.Proofs.Rule.LanguageStyle
import MarkupLint.Proofs.Terminal.Codes
import MarkupLint.Proofs.Text.AsciiCase
import MarkupLint.Proofs.Text.Lowercase
import MarkupLint.Proofs.Text.LoweringTwice
import MarkupLint.Proofs.Text.Utf8
import MarkupLint.Proofs.Text.WhiteSpace
import MarkupLint.Rule.AttributeValue
import MarkupLint.Rule.Basic
import MarkupLint.Rule.Builtin
import MarkupLint.Rule.LanguageStyle
import MarkupLint.Rule.TagNameMatch
import MarkupLint.Terminal.Style
import MarkupLint.Text.Cased
import MarkupLint.Text.CodeRanges
import MarkupLint.Text.Lowercase
import MarkupLint.Text.Printable
import MarkupLint.Text.Quoted
import MarkupLint.Text.Uppercase
import MarkupLint.Text.WhiteSpace
import MarkupLint.Text.WordCharacter
import MarkupLint.Yaml.Input
import MarkupLint.Yaml.Node
import MarkupLint.Yaml.Reader
import MarkupLint.Yaml.Scalar
import MarkupLint.Yaml.ScalarText
import MarkupLint.Yaml.Token
