import HouseRules.Yaml.Token

/-! # A place in a YAML text

The cursor knows what is left of the text and where it stands. A text holds no NUL character, so a
NUL stands for its end. -/

namespace HouseRules.Yaml

/-- The character that stands for the end of the text. -/
def endMark : Char := '\x00'

/-- A character that ends a line. -/
def isBreak (c : Char) : Bool :=
  c == '\r' || c == '\n' || c == '\x85' || c == '\u2028' || c == '\u2029'

/-- The end of a line or of the text. -/
def isBreakOrEnd (c : Char) : Bool := isBreak c || c == endMark

/-- A space, the end of a line or of the text. -/
def isSpaceOrEnd (c : Char) : Bool := c == ' ' || isBreakOrEnd c

/-- A space, a tab, the end of a line or of the text. -/
def isSeparator (c : Char) : Bool := c == '\t' || isSpaceOrEnd c

/-- A character of an anchor, or of the short form of a tag. -/
def isNameChar (c : Char) : Bool := c.isAlphanum || c == '-' || c == '_'

/-- A hexadecimal digit. -/
def isHexDigit (c : Char) : Bool :=
  c.isDigit || ('a' ≤ c && c ≤ 'f') || ('A' ≤ c && c ≤ 'F')

/-- The value of hexadecimal digits, the first one first. -/
def hexNumber (cs : List Char) : Nat :=
  cs.foldl (fun n c =>
    16 * n + (if c.isDigit then c.toNat - 48 else if 'a' ≤ c then c.toNat - 87 else c.toNat - 55)) 0

/-- A character that a document may hold. -/
def isPrintable (c : Char) : Bool :=
  c == '\t' || c == '\n' || c == '\r' || c == '\x85' || (' ' ≤ c && c ≤ '~') ||
    (0xA0 ≤ c.toNat && c.toNat ≤ 0xFFFD) || 0x10000 ≤ c.toNat

/-- A place in a text. -/
structure Cursor where
  /-- What is left of the text. -/
  rest : List Char
  /-- The number of characters before the place. -/
  index : Nat := 0
  /-- The number of lines before the place. -/
  line : Nat := 0
  /-- The number of characters before the place in its line; byte order marks do not count. -/
  column : Nat := 0

namespace Cursor

/-- The character `k` places on. -/
def peek (c : Cursor) (k : Nat) : Char := c.rest.getD k endMark

/-- The cursor behind the next character. -/
def next (c : Cursor) : Cursor :=
  match c.rest with
  | [] => c
  | x :: r =>
    let breaks := isBreak x && !(x == '\r' && r.head? == some '\n')
    { rest := r
      index := c.index + 1
      line := if breaks then c.line + 1 else c.line
      column := if breaks then 0 else if x == '\uFEFF' then c.column else c.column + 1 }

/-- The cursor behind the next `n` characters. -/
def advance (c : Cursor) : Nat → Cursor
  | 0 => c
  | n + 1 => c.next.advance n

/-- A line of dashes or dots that separates documents starts here. -/
def atSeparator (c : Cursor) : Bool :=
  (c.rest.take 3 == "---".toList || c.rest.take 3 == "...".toList) && isSeparator (c.peek 3)

end Cursor
end HouseRules.Yaml
