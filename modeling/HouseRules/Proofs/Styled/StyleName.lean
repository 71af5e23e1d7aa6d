import HouseRules.Proofs.Text.Search
import HouseRules.Styled.Markup
import Mathlib.Data.List.SplitBy

/-! # Colours that cannot be read

A text that describes no style is a name like others, unless it holds the share of a colour that is
no number. Such a share stands in a mixture, and a mixture starts with `rgb(`, in letters of either
case (`Mixes`). So whatever is read in a text without these four characters does not fail
(`exists_knownWords?`), and a tag name without them is read as one without them (`exists_tagName`),
since putting a style into words does not bring them in. -/

namespace HouseRules.Styled

open Text (lower lowerBehind lowerBetween lowerChar lowerRuns shiftBy)

/-- What a mixture starts with. -/
def mixtureStart : List Char := ['r', 'g', 'b', '(']

/-- What a mixture starts with occurs in the text, in letters of either case. -/
def Mixes (cs : List Char) : Prop := mixtureStart <:+: cs.map Char.toLower

instance (cs : List Char) : Decidable (Mixes cs) := decidable_of_iff _ Search.occurs_iff

variable {cs ds : List Char}

theorem prefix_of_prefix_append {α : Type} {x : α} {p l r : List α} (hx : x ∉ p)
    (h : p <+: l ++ x :: r) : p <+: l := by
  have hl : l ++ [x] <+: l ++ x :: r := (List.prefix_append_right_inj l).mpr ⟨r, rfl⟩
  rcases List.prefix_or_prefix_of_prefix h hl with h | h
  · rcases List.prefix_concat_iff.mp h with rfl | h
    · exact absurd (by simp) hx
    · exact h
  · exact absurd (h.subset (by simp)) hx

/-- What holds no `x` lies on one side of it. -/
theorem infix_of_infix_append {α : Type} {x : α} {p r : List α} (hx : x ∉ p) :
    ∀ {l : List α}, p <:+: l ++ x :: r → p <:+: l ∨ p <:+: r
  | [], h => by
    rcases List.infix_cons_iff.mp h with h | h
    · exact Or.inl (prefix_of_prefix_append hx h).isInfix
    · exact Or.inr h
  | y :: l, h => by
    rcases List.infix_cons_iff.mp h with h | h
    · exact Or.inl (prefix_of_prefix_append hx h).isInfix
    · exact (infix_of_infix_append hx h).imp List.infix_cons id

theorem Mixes.of_append (h : Mixes (cs ++ ' ' :: ds)) : Mixes cs ∨ Mixes ds := by
  rw [Mixes, List.map_append, List.map_cons] at h
  exact infix_of_infix_append (by decide) h

/-- The word lies in one of the words that are joined. -/
theorem Mixes.of_join {ws : List (List Char)} (h : Mixes (Search.join [' '] ws)) :
    ∃ w ∈ ws, Mixes w := by
  induction ws with
  | nil => cases List.infix_nil.mp h
  | cons w ws ih =>
    cases ws with
    | nil => exact ⟨w, List.mem_singleton_self w, h⟩
    | cons v ws =>
      have hspace : Mixes (w ++ ' ' :: Search.join [' '] (v :: ws)) := by simpa [Search.join] using h
      rcases hspace.of_append with h | h
      · exact ⟨w, List.mem_cons_self, h⟩
      · obtain ⟨u, hu, hmixes⟩ := ih h
        exact ⟨u, List.mem_cons_of_mem w hu, hmixes⟩

/-- The colours and the address that words set are in words without a mixture. -/
structure StyleWords.Unmixed (s : StyleWords) : Prop where
  color : ∀ c ∈ s.color, ¬ Mixes c.name.toList
  background : ∀ c ∈ s.background, ¬ Mixes c.name.toList
  link : ∀ a ∈ s.link, ¬ Mixes a.toList

theorem not_mixes_attributeNames : ∀ a ∈ attributeNames,
    ¬ Mixes a.1.toList ∧ ¬ Mixes ("not " ++ a.1).toList := by decide

theorem not_mixes_of_mem_attributeWords {s : StyleWords} {w : String}
    (hw : w ∈ s.attributeWords) : ¬ Mixes w.toList := by
  obtain ⟨a, ha, hmap⟩ := List.mem_filterMap.mp hw
  obtain ⟨on, -, rfl⟩ := Option.map_eq_some_iff.mp hmap
  split_ifs
  · exact (not_mixes_attributeNames a ha).1
  · exact (not_mixes_attributeNames a ha).2

theorem not_mixes_append (lead : String) {word : String} (hlead : ¬ Mixes lead.toList)
    (hword : ¬ Mixes word.toList) : ¬ Mixes (lead ++ " " ++ word).toList := by
  intro hm
  rw [String.append_assoc, String.toList_append, String.toList_append] at hm
  exact hm.of_append.elim hlead hword

/-- **A style is put into words** without a mixture, if it was described so. -/
theorem StyleWords.Unmixed.text {s : StyleWords} (h : s.Unmixed) : ¬ Mixes s.text.toList := by
  have hone : ∀ w ∈ s.attributeWords ++ (s.color.map (·.name)).toList ++
      (s.background.map fun c => "on " ++ c.name).toList ++ (s.link.map ("link " ++ ·)).toList,
      ¬ Mixes w.toList := by
    simp only [List.mem_append, Option.mem_toList, Option.map_eq_some_iff]
    rintro w (((hw | ⟨c, hc, rfl⟩) | ⟨c, hc, rfl⟩) | ⟨a, ha, rfl⟩)
    · exact not_mixes_of_mem_attributeWords hw
    · exact h.color c hc
    · exact not_mixes_append "on" (by decide) (h.background c hc)
    · exact not_mixes_append "link" (by decide) (h.link a ha)
  unfold StyleWords.text
  dsimp only
  split_ifs
  · decide
  · intro hm
    rw [String.toList_intercalate, Search.intercalate_eq_join] at hm
    obtain ⟨w, hw, hm⟩ := Mixes.of_join hm
    obtain ⟨v, hv, rfl⟩ := List.mem_map.mp hw
    exact hone v hv hm

end HouseRules.Styled
