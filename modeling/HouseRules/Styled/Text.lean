import HouseRules.Styled.Style
import HouseRules.Text.CellWidth
import HouseRules.Text.Search

/-! # Styled text

A styled text is a list of spans, each with a style. It has two views: `plain`, its characters, and
`ansi`, its characters with the escape sequences that switch the styles on and off. Both views say
the same: without tabs and escape characters the second is the first with sequences added. -/

namespace HouseRules.Styled

/-- A piece of text in one style. -/
structure Span where
  /-- The characters. -/
  chars : List Char
  /-- The look. -/
  style : Style := Style.plain
deriving DecidableEq, Repr

/-- A text in several styles. -/
abbrev StyledText := List Span

/-- A control character that no text keeps: bell, backspace, vertical tab, form feed and carriage
return. -/
def isDropped (c : Char) : Bool :=
  c.toNat == 0x07 || c.toNat == 0x08 || (0x0B ≤ c.toNat && c.toNat ≤ 0x0D)

/-- The characters that a text keeps. -/
def kept (cs : List Char) : List Char := cs.filter (!isDropped ·)

/-- The span of a text in a style. -/
def span (s : String) (style : Style) : Span := ⟨kept s.toList, style⟩

/-- The span of an unstyled text. -/
def bare (s : String) : Span := span s .plain

namespace StyledText

/-- The characters of a styled text. -/
def chars (t : StyledText) : List Char := t.flatMap Span.chars

/-- The characters of a styled text. -/
def plain (t : StyledText) : String := String.ofList (chars t)

/-- Puts a span in front of the first of several lines. -/
def consFirst (s : Span) : List StyledText → List StyledText
  | [] => [[s]]
  | l :: ls => (s :: l) :: ls

/-- Joins the last of some lines with the first of others. -/
def joinLines : List (List Char) → Style → List StyledText → List StyledText
  | [], _, rest => rest
  | [p], style, rest => consFirst ⟨p, style⟩ rest
  | p :: ps, style, rest => [⟨p, style⟩] :: joinLines ps style rest

/-- The lines of a styled text, cut at line feeds. There is at least one. -/
def lines : StyledText → List StyledText
  | [] => [[]]
  | s :: r => joinLines (Search.pieces '\n' s.chars) s.style (lines r)

/-- The first `n` characters and the others. -/
def splitAt : Nat → StyledText → StyledText × StyledText
  | _, [] => ([], [])
  | n, s :: r =>
    if n = 0 then ([], s :: r)
    else if n < s.chars.length then
      ([⟨s.chars.take n, s.style⟩], ⟨s.chars.drop n, s.style⟩ :: r)
    else
      let (a, b) := splitAt (n - s.chars.length) r
      (s :: a, b)

/-- The first `n` characters. -/
def takeChars (n : Nat) (t : StyledText) : StyledText := (splitAt n t).1

/-! ### Tabs -/

/-- The columns up to which a tab that follows column `col` reaches. -/
def tabStop (col : Nat) : Nat := (col / 8 + 1) * 8

/-- Puts a character in front of the first piece. -/
def consPiece (c : Char) : List (List Char) → List (List Char)
  | [] => [[c]]
  | p :: ps => (c :: p) :: ps

/-- The characters with their tabs as spaces, cut behind each tab, starting in column `col`; and
the column after them. -/
def expandChars : (col : Nat) → List Char → List (List Char) × Nat
  | col, [] => ([], col)
  | col, c :: r =>
    if c = '\t' then
      let (ps, last) := expandChars (tabStop col) r
      (List.replicate (tabStop col - col) ' ' :: ps, last)
    else
      let (ps, last) := expandChars (col + Text.charWidth c) r
      (consPiece c ps, last)

/-- A line with its tabs as spaces up to the next multiple of eight columns. -/
def expandTabsFrom : Nat → StyledText → StyledText
  | _, [] => []
  | col, s :: r =>
    let (ps, last) := expandChars col s.chars
    ps.map (⟨·, s.style⟩) ++ expandTabsFrom last r

/-- A line with its tabs as spaces. -/
def expandTabs (t : StyledText) : StyledText := expandTabsFrom 0 t

/-! ### Escape sequences -/

/-- The escape character. -/
def escape : Char := '\x1b'

/-- The sequence that switches to the given codes. -/
def sgr (codes : List Nat) : List Char :=
  escape :: '[' :: (";".intercalate (codes.map Nat.repr)).toList ++ ['m']

/-- A span with the sequences around it. -/
def ansiSpan (s : Span) : List Char :=
  if s.chars = [] then []
  else if s.style.codes = [] then s.chars
  else sgr s.style.codes ++ s.chars ++ sgr [0]

/-- A line with its escape sequences. -/
def ansiLine (t : StyledText) : List Char := t.flatMap ansiSpan

/-- The text with its escape sequences, tabs as spaces. Blanks at the ends of lines are kept, however
long the lines are. -/
def ansi (t : StyledText) : String :=
  String.ofList (Search.join ['\n'] ((lines t).map fun l => ansiLine (expandTabs l)))

end StyledText
end HouseRules.Styled
