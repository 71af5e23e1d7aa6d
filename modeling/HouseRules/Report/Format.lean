import HouseRules.Check.Engine
import HouseRules.Json.Quoted
import HouseRules.Styled.Escape
import HouseRules.Styled.Markup
import HouseRules.Styled.Panel

/-! # Output of reports

A report is shown on a screen of some width, or written as plain text or as a JSON document. On a
screen the messages come with their styles, if the screen has colours, and the summary stands in a
panel. -/

namespace HouseRules

open Styled

/-- The output formats. -/
inductive Format where
  /-- For a screen. -/
  | terminal
  /-- Plain text. -/
  | plain
  /-- A JSON document. -/
  | json
  deriving DecidableEq, Repr

/-- The name of no format. -/
structure UnknownFormat where
  /-- The name. -/
  name : String
  deriving DecidableEq, Repr

/-- The wording of an unknown format. -/
def UnknownFormat.message (e : UnknownFormat) : String := s!"Unknown format: {e.name}"

/-- The format of a name. -/
def Format.ofName : String → Except UnknownFormat Format
  | "terminal" => .ok .terminal
  | "plain" => .ok .plain
  | "json" => .ok .json
  | name => .error ⟨name⟩

/-! ### Screens -/

/-- What a report is shown on. -/
structure Screen where
  /-- The number of columns. -/
  width : Nat := usualColumns
  /-- It shows styles. -/
  colored : Bool := false
  /-- Blanks at the end of a line with more characters than columns are cut off, also where no line
  is broken. -/
  trims : Bool := false

namespace Screen

/-- A line on the screen. -/
def line (s : Screen) (t : StyledText) : String :=
  String.ofList (if s.colored then StyledText.ansiLine t else StyledText.chars t) ++ "\n"

/-- A text on the screen, with its lines broken. -/
def shown (s : Screen) (t : StyledText) : String := String.join ((wrap s.width t).map s.line)

/-- A marked-up text on the screen. -/
def showMarkup (s : Screen) (text : String) : Except MarkupError String := s.shown <$> ofMarkup text

/-- A line that is not broken, as the screen cuts it. -/
def trimmed (s : Screen) (t : StyledText) : StyledText := if s.trims then dropExcess s.width t else t

/-- A text on the screen, with its emoji, and with no line broken. -/
def showLines (s : Screen) (text : String) : String :=
  let t : StyledText := [⟨kept (withEmoji text.toList), .plain⟩]
  String.join ((StyledText.lines t).map fun l => s.line (s.trimmed (StyledText.expandTabs l)))

end Screen

/-! ### Reports -/

namespace Report

/-- The title of the panel. -/
def title : StyledText := [bare " ", span "stricture" .bold, bare " "]

/-- The look of the panel: red with findings, green without. -/
def frameStyle (r : Report) : Style := if r.hasFindings then .red else .green

/-- The report on a screen: each message with an empty line behind it, then the summary. -/
def onScreen (s : Screen) (r : Report) : Except MarkupError String := do
  let messages := r.findings.map fun f => s.shown (ofEscapes f.message) ++ "\n"
  let frame : Frame := ⟨s.width, r.frameStyle, title⟩
  let panel := (frame.lines (← ofMarkup r.summary)).map s.line
  return String.join (messages ++ panel)

/-- The report as plain text: messages and summary with empty lines between them. -/
def plainText (r : Report) : String :=
  "\n\n".intercalate (r.findings.map Finding.message ++ [r.summary])

/-- A JSON literal. -/
def literal (s : String) : String := Json.literal .ascii s

/-- A finding as the lines of a JSON object, each indented by `indent`. -/
def jsonFinding (indent : String) (f : Finding) : String :=
  let commit := (f.commitId.map literal).getD "null"
  let message := StyledText.plain (ofEscapes f.message)
  let fields := [("check", literal f.checkId), ("path", literal f.path), ("commit", commit),
    ("message", literal message)]
  let lines := fields.map fun (k, v) => indent ++ "  " ++ literal k ++ ": " ++ v
  indent ++ "\x7b\n" ++ ",\n".intercalate lines ++ "\n" ++ indent ++ "\x7d"

/-- The report as a JSON document. -/
def jsonText (r : Report) : String :=
  let findings := r.findings.map (jsonFinding "    ")
  let list := if findings.isEmpty then "[]" else "[\n" ++ ",\n".intercalate findings ++ "\n  ]"
  "\x7b\n  " ++ literal "summary" ++ ": " ++ literal r.summary ++ ",\n  " ++
    literal "errors" ++ ": " ++ list ++ "\n\x7d"

/-- What a format gives: text to hand on, and text that goes to the screen. -/
structure Output where
  /-- The text to hand on. -/
  text : String := ""
  /-- What the screen shows. -/
  shown : String := ""
  deriving DecidableEq, Repr

/-- The report in a format. -/
def format (s : Screen) (f : Format) (r : Report) : Except MarkupError Output :=
  match f with
  | .terminal => do return { shown := ← r.onScreen s }
  | .plain => .ok { text := r.plainText }
  | .json => .ok { text := r.jsonText }

end Report
end HouseRules
