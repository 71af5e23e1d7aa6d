import HouseRules.History.Commit
import HouseRules.Snippet.LineIndex
import HouseRules.Styled.Wrap

/-! # Messages with source snippets

A message is a title, snippets of source text with one region marked in each, and a line of help.
It is laid out in rows:

    error: expected postfix Async for method that returns Task
     --> src/Service.cs:3:17
      |
    3 |     public Task Load() { }
      |                 ^^^^ expected postfix Async for method that returns Task
      |
      = help: consider LoadAsync

Each marked line is followed by a row of carets below the marked characters, at least one. The bars
of all rows stand in the same column, behind the width of the last line number shown. -/

namespace HouseRules

open Styled

/-- A source text with a marked region. -/
structure Snippet where
  /-- The text. -/
  source : String
  /-- Where the text comes from. -/
  origin : String
  /-- The marked bytes. -/
  range : ByteRange
  /-- What is said about them. -/
  label : String
  /-- Only the marked lines are shown. -/
  fold : Bool := true
deriving DecidableEq, Repr

/-- A message. -/
structure Message where
  /-- What is wrong. -/
  title : StyledText
  /-- Where. -/
  snippets : List Snippet := []
  /-- What to do about it. -/
  help : Option StyledText := none
deriving DecidableEq, Repr

/-- The look of the word error and of the carets. -/
def errorStyle : Style := Style.red.turnOn 1

/-- The look of the margin. -/
def gutterStyle : Style := Style.blue.turnOn 1

/-- The look of the word help. -/
def helpStyle : Style := Style.cyan.turnOn 1

/-- `n` times the character. -/
def repeated (n : Nat) (c : Char) : String := String.ofList (List.replicate n c)

namespace Snippet

/-- What a snippet's layout depends on. -/
structure Layout where
  /-- The lines of the source. -/
  index : LineIndex
  /-- The marked bytes. -/
  range : ByteRange
  /-- The first marked line. -/
  first : Nat
  /-- The last marked line. -/
  last : Nat
  /-- The lines that are shown. -/
  shown : List Nat
  /-- The width of the line numbers. -/
  width : Nat

/-- The layout of a snippet. -/
def layout (s : Snippet) : Layout :=
  let index := LineIndex.ofSource s.source
  let lastOffset := if s.range.start < s.range.stop then s.range.stop - 1 else s.range.start
  let first := index.lineOf s.range.start
  let last := index.lineOf lastOffset
  let shown := if s.fold then List.range' first (last + 1 - first) else List.range index.size
  { index, range := s.range, first, last, shown, width := (Nat.repr (shown.getLastD 0 + 1)).length }

namespace Layout

/-- A margin as wide as the line numbers. -/
def pad (l : Layout) : String := repeated l.width ' '

/-- A line number, set to the right. -/
def number (l : Layout) (line : Nat) : String :=
  let digits := Nat.repr (line + 1)
  repeated (l.width - digits.length) ' ' ++ digits

/-- The line holds marked bytes. -/
def marks (l : Layout) (line : Nat) : Bool := l.first ≤ line && line ≤ l.last

/-- The column of the first caret below a line. -/
def caretStart (l : Layout) (line : Nat) : Nat :=
  if line = l.first then l.index.columnOf l.range.start else 0

/-- The column after the last caret below a line, if it is behind the first. -/
def caretStop (l : Layout) (line : Nat) : Nat :=
  if line = l.last then l.index.widthUntil line l.range.stop else (l.index.lineText line).length

/-- The row that shows a line. -/
def sourceRow (l : Layout) (line : Nat) : StyledText :=
  [span (l.number line ++ " | ") gutterStyle, bare (l.index.lineText line)]

/-- The row of carets below a line. -/
def caretRow (l : Layout) (label : String) (line : Nat) : StyledText :=
  let start := l.caretStart line
  [span (l.pad ++ " | ") gutterStyle, bare (repeated start ' '),
    span (repeated (max (l.caretStop line - start) 1) '^') errorStyle] ++
    if line = l.last && label ≠ "" then [span (" " ++ label) errorStyle] else []

/-- The rows of a line. -/
def rows (l : Layout) (label : String) (line : Nat) : List StyledText :=
  if l.marks line then [l.sourceRow line, l.caretRow label line] else [l.sourceRow line]

/-- The row that says where the marked region starts. -/
def locationRow (l : Layout) (origin : String) : StyledText :=
  let column := l.index.columnOf l.range.start + 1
  [span (l.pad ++ "--> ") gutterStyle, bare s!"{origin}:{l.first + 1}:{column}"]

/-- A row with a bar only. -/
def barRow (l : Layout) : StyledText := [span (l.pad ++ " |") gutterStyle]

end Layout

/-- The rows of a snippet. -/
def rows (s : Snippet) : List StyledText :=
  let l := s.layout
  [l.locationRow s.origin, l.barRow] ++ l.shown.flatMap (l.rows s.label) ++ [l.barRow]

/-- The margin of a snippet. -/
def pad (s : Snippet) : String := s.layout.pad

end Snippet

namespace Message

/-- The row of help behind a margin. -/
def helpRow (pad : String) (help : StyledText) : StyledText :=
  [span (pad ++ " = ") gutterStyle, span "help" helpStyle, bare ": "] ++ help

/-- The row of the title. -/
def titleRow (m : Message) : StyledText :=
  [span "error" errorStyle, span ": " Style.bold] ++ m.title

/-- The rows of a message. The help stands behind the margin of the last snippet. -/
def rows (m : Message) : List StyledText :=
  let pad := (m.snippets.getLast?.map Snippet.pad).getD ""
  m.titleRow :: m.snippets.flatMap Snippet.rows ++ (m.help.map (helpRow pad)).toList

/-- The message as one text, its rows joined by line feeds. -/
def text (m : Message) : StyledText := Search.join [bare "\n"] m.rows

end Message

/-- How messages are written: with or without escape sequences. -/
inductive Rendering where
  /-- Characters only. -/
  | plain
  /-- With escape sequences. -/
  | styled
  /-- With escape sequences, for a screen that trims lines which are wider than it is. -/
  | trimmed (columns : Nat)
deriving DecidableEq, Repr

/-- The written form of a message. -/
def Rendering.render (r : Rendering) (m : Message) : String :=
  match r with
  | plain => StyledText.plain m.text
  | styled => StyledText.ansi m.text
  | trimmed columns => ansiTrimmed columns m.text

end HouseRules
