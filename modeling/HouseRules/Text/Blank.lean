import HouseRules.Text.Ranges
import HouseRules.Text.Search

/-! # White space

The white-space characters of all scripts, and texts without white space at their ends. -/

namespace HouseRules.Text

/-- The white-space characters. -/
def blankRanges : Ranges := [
  (0x09, 0x0D), (0x1C, 0x20), (0x85, 0x85), (0xA0, 0xA0), (0x1680, 0x1680), (0x2000, 0x200A),
  (0x2028, 0x2029), (0x202F, 0x202F), (0x205F, 0x205F), (0x3000, 0x3000)]

/-- A white-space character. -/
def isBlank (c : Char) : Bool := blankRanges.contains c

/-- The text without white space at its ends. -/
def strip (s : String) : String := String.ofList (Search.trim isBlank s.toList)

/-- The text without its longest tail of characters from `cs`. -/
def stripEndOf (cs : List Char) (s : String) : String :=
  String.ofList (Search.dropEndWhile (cs.contains ·) s.toList)

theorem isBlank_of_isWhitespace (c : Char) (h : c.isWhitespace) : isBlank c := by
  have h' : c = ' ' ∨ c = '\t' ∨ c = '\r' ∨ c = '\n' := by
    simpa [Char.isWhitespace, Bool.or_eq_true, or_assoc] using h
  rcases h' with rfl | rfl | rfl | rfl <;> decide

end HouseRules.Text
