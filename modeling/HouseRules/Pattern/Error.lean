import HouseRules.Text.Digit

/-! # Errors of patterns

A text that is no pattern is refused with a reason and, mostly, a position in it. When the text has
several lines the position is given by line and column too. Four further causes are kept apart: a
repetition count that is out of bounds, one with more digits than are read as a number, a pattern
that asks for two alphabets at once, and a text that there is no room to read. -/

namespace HouseRules.Pattern

/-- Why a text is no pattern. -/
inductive Error where
  /-- The text is malformed, at a position if one is known. -/
  | malformed (reason : String) (position : Option Nat)
  /-- A repetition count is out of bounds. -/
  | countTooLarge
  /-- A repetition count has too many digits. -/
  | tooManyDigits (digits : Nat)
  /-- The pattern asks for the ASCII alphabet and for the full one. -/
  | twoAlphabets
  /-- There is no room for the nested calls that reading the text takes. -/
  | noRoom
deriving DecidableEq, Repr

/-- The line of a position, counted from one. -/
def lineOf (text : List Char) (position : Nat) : Nat := (text.take position).count '\n' + 1

/-- The column of a position in its line, counted from one. -/
def columnOf (text : List Char) (position : Nat) : Nat :=
  ((text.take position).reverse.takeWhile (· != '\n')).length + 1

/-- The wording of an error in the pattern `text`. -/
def Error.message (text : String) : Error → String
  | malformed reason none => reason
  | malformed reason (some p) =>
    let cs := text.toList
    if cs.contains '\n' then
      s!"{reason} at position {p} (line {lineOf cs p}, column {columnOf cs p})"
    else s!"{reason} at position {p}"
  | countTooLarge => "the repetition number is too large"
  | tooManyDigits digits => Text.tooManyDigits digits
  | twoAlphabets => "ASCII and UNICODE flags are incompatible"
  | noRoom => "maximum recursion depth exceeded"

end HouseRules.Pattern
