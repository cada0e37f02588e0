import SqlOutline.Command.Basic
import SqlOutline.Command.Line
import SqlOutline.Config.Basic
import SqlOutline.Config.Load
import SqlOutline.Environment.Basic
import SqlOutline.Environment.Definitions
import SqlOutline.Export
import SqlOutline.Files.Glob
import SqlOutline.Files.Path
import SqlOutline.Files.Tree
import SqlOutline.Filter.Basic
import SqlOutline.Filter.Eval
import SqlOutline.Filter.Expr
import SqlOutline.Filter.Lexer
import SqlOutline.Filter.Parser
import SqlOutline.Filter.Ty
import SqlOutline.Filter.Typing
import SqlOutline.Fixture.Basic
import SqlOutline.Fixture.Report
import SqlOutline.Fixture.Sample
import SqlOutline.Json.Basic
import SqlOutline.Json.Node
import SqlOutline.Json.Reader
import SqlOutline.Layout.Basic
import SqlOutline.Layout.KeywordCase
import SqlOutline.Main
import SqlOutline.Markdown.Autolink
import SqlOutline.Markdown.Block
import SqlOutline.Markdown.Delimiter
import SqlOutline.Markdown.Document
import SqlOutline.Markdown.Html
import SqlOutline.Markdown.Inline
import SqlOutline.Markdown.Line
import SqlOutline.Markdown.Mark
import SqlOutline.Markdown.Reference
import SqlOutline.Markdown.SqlBlock
import SqlOutline.Markdown.Table
import SqlOutline.Outline.Basic
import SqlOutline.Outline.Element
import SqlOutline.Outline.Kind
import SqlOutline.Outline.Node
import SqlOutline.Piece.Basic
import SqlOutline.Piece.Pattern
import SqlOutline.Piece.Record
import SqlOutline.Piece.Rules
import SqlOutline.Piece.Statement
import SqlOutline.Query
import SqlOutline.Regex.Basic
import SqlOutline.Regex.Parser
import SqlOutline.Text.CaseFold
import SqlOutline.Text.CaseVariant
import SqlOutline.Text.Category
import SqlOutline.Text.CodeRange
import SqlOutline.Text.CodeRun
import SqlOutline.Text.DecimalDigit
import SqlOutline.Text.Double
import SqlOutline.Text.Letter
import SqlOutline.Text.LetterCase
import SqlOutline.Text.Printable
import SqlOutline.Text.Punctuation
import SqlOutline.Text.Quoted
import SqlOutline.Text.Script
import SqlOutline.Text.Space
import SqlOutline.Text.Style
import SqlOutline.Token.Basic
import SqlOutline.Token.Keyword
import SqlOutline.Token.LexClass
import SqlOutline.Token.Parens
import SqlOutline.Token.Scan
import SqlOutline.Xml.Basic
import SqlOutline.Xml.NameChar
import SqlOutline.Xml.Reader
import SqlOutline.Yaml.Decode
import SqlOutline.Yaml.Lexeme.Basic
import SqlOutline.Yaml.Lexeme.BlockText
import SqlOutline.Yaml.Lexeme.Lexer
import SqlOutline.Yaml.Lexeme.Quoted
import SqlOutline.Yaml.Numeral
import SqlOutline.Yaml.Phrase
import SqlOutline.Yaml.Scalar
import SqlOutline.Yaml.Tree
import SqlOutline.Yaml.Value
import SqlOutline.Yaml.Writer
import SqlOutline.Proofs.Scan.Boundary
import SqlOutline.Proofs.Scan.Shape
import SqlOutline.Proofs.Scan.Lexed
import SqlOutline.Proofs.Layout.KeywordSpelling
import SqlOutline.Proofs.Layout.Arrangement
import SqlOutline.Proofs.Layout.Formatted
import SqlOutline.Proofs.Layout.TokenPreservation
import SqlOutline.Proofs.Layout.Idempotence
import SqlOutline.Proofs.Piece.Regroup
import SqlOutline.Proofs.Piece.Rules
import SqlOutline.Proofs.Piece.Parse
import SqlOutline.Proofs.Query.Calls
import SqlOutline.Proofs.Query.Refinement
import SqlOutline.Proofs.Piece.Acceptance
import SqlOutline.Proofs.Scan.Lossless
import SqlOutline.Proofs.Layout.Acceptance
import SqlOutline.Proofs.Piece.Grammar
import SqlOutline.Proofs.Piece.CaseMatching
import SqlOutline.Proofs.Piece.Grouped
import SqlOutline.Proofs.Query.Spelling
import SqlOutline.Proofs.Piece.Nesting
import SqlOutline.Proofs.Piece.Resemblance
import SqlOutline.Proofs.Piece.Indifference
import SqlOutline.Proofs.Piece.Standalone
import SqlOutline.Proofs.Outline.Stripped
import SqlOutline.Proofs.Outline.Views
import SqlOutline.Proofs.Json.Depth
import SqlOutline.Proofs.Json.RoundTrip
import SqlOutline.Proofs.Xml.Tags
import SqlOutline.Proofs.Xml.RoundTrip
import SqlOutline.Proofs.Layout.Joined
import SqlOutline.Proofs.Layout.Statements
import SqlOutline.Proofs.Result
import SqlOutline.Proofs.Command.FormatCheck
import SqlOutline.Proofs.Text.ByteOrder
import SqlOutline.Proofs.Files.Writing
import SqlOutline.Proofs.Files.Matching
import SqlOutline.Proofs.Fixture.Scan
import SqlOutline.Proofs.Fixture.RoundTrip
import SqlOutline.Proofs.Layout.Canonical
import SqlOutline.Proofs.Piece.Calls
import SqlOutline.Proofs.Piece.CaseBrackets
import SqlOutline.Proofs.Piece.Wildcards
import SqlOutline.Proofs.Piece.ParenCount
import SqlOutline.Proofs.Piece.ParenStack
import SqlOutline.Proofs.Piece.Clauses
import SqlOutline.Proofs.Outline.Classification
import SqlOutline.Proofs.Filter.Selection
import SqlOutline.Proofs.Scan.Classes
import SqlOutline.Proofs.Scan.Options
import SqlOutline.Proofs.Scan.Rescan
import SqlOutline.Proofs.Text.Quoted
import SqlOutline.Proofs.Text.Cut
import SqlOutline.Proofs.Outline.Dump
import SqlOutline.Proofs.Outline.KindCounts
import SqlOutline.Proofs.Export.Leaves
import SqlOutline.Proofs.Environment.Expansion
