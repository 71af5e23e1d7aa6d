import HouseRules.CSharp.Group
import HouseRules.CSharp.Keyword
import HouseRules.CSharp.Outline
import HouseRules.CSharp.Token
import HouseRules.Calendar.Stamp
import HouseRules.Check.AsyncSuffix
import HouseRules.Check.CommittedTodos
import HouseRules.Check.Engine
import HouseRules.Check.Filter
import HouseRules.Check.Finding
import HouseRules.Check.Registry
import HouseRules.Command.Args
import HouseRules.Command.Outcome
import HouseRules.Command.Run
import HouseRules.Decimal.Shortest
import HouseRules.Diff.Line
import HouseRules.Diff.Quoted
import HouseRules.Diff.Scan
import HouseRules.Diff.Section
import HouseRules.Files.Glob
import HouseRules.Files.Path
import HouseRules.Files.Sources
import HouseRules.Files.Tree
import HouseRules.History.Commit
import HouseRules.History.Failure
import HouseRules.History.Git
import HouseRules.History.Repository
import HouseRules.Json.Quoted
import HouseRules.Main
import HouseRules.Pattern.Error
import HouseRules.Pattern.Expr
import HouseRules.Pattern.Matcher
import HouseRules.Pattern.Reader
import HouseRules.Proofs.Check.CommittedMarks
import HouseRules.Proofs.Check.MarkedLine
import HouseRules.Proofs.Check.Scan
import HouseRules.Proofs.Check.Suppression
import HouseRules.Proofs.Diff.Body
import HouseRules.Proofs.Diff.Names
import HouseRules.Proofs.Diff.Patch
import HouseRules.Proofs.Diff.Quoting
import HouseRules.Proofs.Diff.ReadLine
import HouseRules.Proofs.Diff.RoundTrip
import HouseRules.Proofs.Diff.Scan
import HouseRules.Proofs.Diff.Sections
import HouseRules.Proofs.History.Reading
import HouseRules.Proofs.History.Recording
import HouseRules.Proofs.History.Repository
import HouseRules.Proofs.Snippet.OneLine
import HouseRules.Proofs.Text.Lines
import HouseRules.Proofs.Text.Search
import HouseRules.Proofs.Text.Utf8
import HouseRules.Report.Format
import HouseRules.Settings.Basic
import HouseRules.Settings.File
import HouseRules.Settings.Value
import HouseRules.Snippet.LineIndex
import HouseRules.Snippet.Message
import HouseRules.Source.Namespace
import HouseRules.Source.Tree
import HouseRules.Styled.Emoji
import HouseRules.Styled.Escape
import HouseRules.Styled.Markup
import HouseRules.Styled.Panel
import HouseRules.Styled.Style
import HouseRules.Styled.StyleName
import HouseRules.Styled.Text
import HouseRules.Styled.Wrap
import HouseRules.Text.Blank
import HouseRules.Text.Bytes
import HouseRules.Text.Case
import HouseRules.Text.CellWidth
import HouseRules.Text.CharName
import HouseRules.Text.Digit
import HouseRules.Text.EmojiName
import HouseRules.Text.Lower
import HouseRules.Text.Newline
import HouseRules.Text.Quoted
import HouseRules.Text.Ranges
import HouseRules.Text.Search
import HouseRules.Text.Utf8
import HouseRules.Text.WordChar
import HouseRules.Yaml.Cursor
import HouseRules.Yaml.Document
import HouseRules.Yaml.Lexer
import HouseRules.Yaml.Node
import HouseRules.Yaml.Tag
import HouseRules.Yaml.Token
import HouseRules.Proofs.History.Recency
import HouseRules.Proofs.History.Uncached
import HouseRules.Proofs.Check.CachedSteps
import HouseRules.Proofs.History.Loads
import HouseRules.Proofs.Check.Course
import HouseRules.Proofs.Check.Quiet
import HouseRules.Proofs.Command.ExitCode
import HouseRules.Proofs.Json.Reader
import HouseRules.Proofs.Report.Document
import HouseRules.Proofs.Report.LineEnds
import HouseRules.Proofs.Command.Printed
import HouseRules.Proofs.Check.FailingCalls
import HouseRules.Proofs.Snippet.Texts
import HouseRules.Proofs.Check.Renderings
import HouseRules.Proofs.Check.Runs
import HouseRules.Proofs.Command.Failures
import HouseRules.Proofs.Check.FirstStop
import HouseRules.Proofs.Check.Registered
import HouseRules.Proofs.Check.OffendingMethods
import HouseRules.Proofs.Snippet.TextLines
import HouseRules.Proofs.Snippet.Carets
import HouseRules.Proofs.Files.Glob
import HouseRules.Proofs.Files.Directory
import HouseRules.Proofs.Diff.Requests
import HouseRules.Proofs.Snippet.Frame
import HouseRules.Proofs.Check.AddedLines
import HouseRules.Proofs.Text.Boundary
import HouseRules.Proofs.Snippet.Positions
import HouseRules.Proofs.Check.DisplayRange
import HouseRules.Proofs.Check.MarkCarets
import HouseRules.Proofs.Check.NameCarets
import HouseRules.Proofs.Files.Union
import HouseRules.Proofs.Report.Decoded
import HouseRules.Proofs.Check.HelpLine
import HouseRules.Proofs.Pattern.Refusals
import HouseRules.Proofs.Check.FilterFaults
import HouseRules.Proofs.Source.SourceOrder
