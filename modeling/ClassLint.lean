import ClassLint.Text.Basic
import ClassLint.Text.Blank
import ClassLint.Text.Comment
import ClassLint.Text.Raw
import ClassLint.Selector.Error
import ClassLint.Selector.Name
import ClassLint.Selector.Token
import ClassLint.Selector.Piece
import ClassLint.Selector.Parse
import ClassLint.Unicode.Ranges
import ClassLint.Unicode.Category
import ClassLint.Unicode.Property
import ClassLint.Unicode.Script
import ClassLint.Unicode.Break
import ClassLint.Unicode.Age
import ClassLint.Unicode.Folding
import ClassLint.Unicode.Letter
import ClassLint.Decimal.Binary64
import ClassLint.Decimal.Shortest
import ClassLint.Json.Value
import ClassLint.Json.Writer
import ClassLint.Json.Reader
import ClassLint.Segment
import ClassLint.Level
import ClassLint.Position
import ClassLint.Dialect
import ClassLint.Sheet.Node
import ClassLint.Sheet.Outline
import ClassLint.Sheet.Error
import ClassLint.Sheet.Declaration
import ClassLint.Sheet.Prelude
import ClassLint.Sheet.Event
import ClassLint.Sheet.Parse
import ClassLint.Journal
import ClassLint.Nesting
import ClassLint.Walk
import ClassLint.Regex.CharSet
import ClassLint.Regex.Expr
import ClassLint.Regex.Escape
import ClassLint.Regex.ClassParser
import ClassLint.Regex.Parser
import ClassLint.Regex.Program
import ClassLint.Regex.Mode
import ClassLint.Regex.Utf8
import ClassLint.Regex.Footprint
import ClassLint.Regex.Compile
import ClassLint.Regex.Match
import ClassLint.Pattern
import ClassLint.Violation
import ClassLint.Options
import ClassLint.Verdict
import ClassLint.Diagnostic
import ClassLint.Rule
import ClassLint.Config
import ClassLint.Json.Skipper
import ClassLint.Config.Reader
import ClassLint.Linter
import ClassLint.Command.Arguments
import ClassLint.Command.Report
import ClassLint.Command.FileTree
import ClassLint.Command.Run
import ClassLint.Main
import ClassLint.Proofs.Journal
import ClassLint.Proofs.Resolution
import ClassLint.Proofs.Traversal
import ClassLint.Proofs.Diagnosis
import ClassLint.Proofs.Linting
import ClassLint.Proofs.Trimming
import ClassLint.Proofs.Lexing
import ClassLint.Proofs.SelectorWriting
import ClassLint.Proofs.CommaLists
import ClassLint.Proofs.Rendering
import ClassLint.Proofs.Conservation
import ClassLint.Proofs.Letters
import ClassLint.Proofs.SheetWriting
import ClassLint.Proofs.Spelling
import ClassLint.Proofs.Rereading
import ClassLint.Proofs.Chains
import ClassLint.Proofs.Redisplay
import ClassLint.Proofs.Activation
import ClassLint.Proofs.Comments
import ClassLint.Proofs.Independence
import ClassLint.Proofs.Offsets
import ClassLint.Proofs.Outlines
import ClassLint.Proofs.Places
import ClassLint.Proofs.DocumentOrder
import ClassLint.Proofs.Visits
import ClassLint.Proofs.Continuation
import ClassLint.Proofs.Keyframes
import ClassLint.Proofs.Notices
import ClassLint.Proofs.LintNotices
import ClassLint.Proofs.Strides
import ClassLint.Proofs.ColonScanning
import ClassLint.Proofs.BracketMatching
import ClassLint.Proofs.NamedEntries
import ClassLint.Proofs.Dialects
import ClassLint.Proofs.Settings
import ClassLint.Proofs.JsonSpelling
import ClassLint.Proofs.JsonReading
import ClassLint.Proofs.JsonValues
import ClassLint.Proofs.ConfigPrinting
import ClassLint.Proofs.Decoding
import ClassLint.Proofs.CommandRuns
import ClassLint.Proofs.SelectorShape
import ClassLint.Proofs.Verdicts
import ClassLint.Proofs.ListConcatenation
import ClassLint.Proofs.DescendantJoins
import ClassLint.Proofs.NestingMarks
import ClassLint.Proofs.EscapedNames
import ClassLint.Proofs.Culprits
import ClassLint.Proofs.OuterBlanks
import ClassLint.Proofs.LevelComposition
import ClassLint.Proofs.BareLevels
import ClassLint.Proofs.ClassOrder
import ClassLint.Proofs.Matching
import ClassLint.Proofs.StyleNames
import ClassLint.Proofs.Splitting
import ClassLint.Proofs.FlagOrder
import ClassLint.Proofs.PatternLiterals
import ClassLint.Proofs.Progress
import ClassLint.Proofs.ByteOffsets
import ClassLint.Proofs.ByteSlices
import ClassLint.Proofs.EmptyLists
import ClassLint.Proofs.UnresolvedRules
