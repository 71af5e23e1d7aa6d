import HouseRules.Proofs.Snippet.Frame

/-! # Lines with escape sequences

Escape sequences are read line by line, and what is read of a line depends on no other
(`pieces_ofEscapes`). So each line of a written text can be looked at for itself: if it holds no
escape character and nothing that is dropped, it is read with its tabs as spaces, whatever the other
lines hold (`pieces_ofEscapes_ansi`). -/

namespace HouseRules

namespace Styled

open Search

/-! ### Reading -/

/-- What is read of a line. -/
def unescapedLine (l : List Char) : List Char :=
  kept ((linePieces false (afterReturn l)).filterMap Piece.char?)

theorem chars_map_kept (t : StyledText) :
    StyledText.chars (t.map fun s => { s with chars := kept s.chars }) =
      kept (StyledText.chars t) := by
  induction t with
  | nil => rfl
  | cons s t ih =>
    rw [List.map_cons, StyledText.chars_cons, StyledText.chars_cons, ih, kept_append]

theorem kept_join : ∀ ps : List (List Char),
    kept (join ['\n'] ps) = join ['\n'] (ps.map kept)
  | [] => rfl
  | [p] => rfl
  | p :: q :: ps => by
    have hnewline : kept ['\n'] = ['\n'] := by decide
    rw [join, List.map_cons, List.map_cons, join, kept_append, kept_append, hnewline,
      kept_join (q :: ps), List.map_cons]

theorem map_kept_linesOf : ∀ (s : Style) (ls : List (List Char)),
    ((linesOf s ls).map StyledText.chars).map kept = ls.map unescapedLine
  | _, [] => rfl
  | s, l :: ls => by
    rw [linesOf, List.map_cons, List.map_cons, List.map_cons, chars_spansOf,
      map_kept_linesOf _ ls, unescapedLine]

theorem chars_ofEscapes (text : String) : StyledText.chars (ofEscapes text) =
    join ['\n'] ((pieces '\n' text.toList).map unescapedLine) := by
  rw [ofEscapes, chars_filter_ne_nil, chars_map_kept, chars_joinLines, kept_join, map_kept_linesOf]

theorem mem_of_mem_linePieces {c : Char} (swallow : Bool) (cs : List Char)
    (h : c ∈ (linePieces swallow cs).filterMap Piece.char?) : c ∈ cs := by
  fun_induction linePieces swallow cs with
  | case1 => cases h
  | case2 swallow d r s n hs piece ih =>
    rw [List.filterMap_cons_none (by cases s <;> rfl)] at h
    exact List.mem_cons_of_mem d (List.mem_of_mem_drop (ih h))
  | case3 d r hs ih => exact List.mem_cons_of_mem d (ih h)
  | case4 _ d r hs _ ih =>
    have hchar : Piece.char? (.char d) = some d := rfl
    rw [List.filterMap_cons_some hchar, List.mem_cons] at h
    rcases h with rfl | h
    · exact List.mem_cons_self
    · exact List.mem_cons_of_mem d (ih h)

theorem mem_of_mem_unescapedLine {c : Char} {l : List Char} (h : c ∈ unescapedLine l) : c ∈ l := by
  have hafter := mem_of_mem_linePieces false _ (List.mem_of_mem_filter h)
  unfold afterReturn at hafter
  cases hlast : (pieces '\r' l).getLast? with
  | none =>
    rw [hlast] at hafter
    cases hafter
  | some p =>
    rw [hlast, Option.getD_some] at hafter
    exact (mem_of_mem_pieces (List.mem_of_getLast? hlast) hafter).1

/-- **A text with escape sequences is read line by line.** -/
theorem pieces_ofEscapes (text : String) : pieces '\n' (StyledText.chars (ofEscapes text)) =
    (pieces '\n' text.toList).map unescapedLine := by
  rw [chars_ofEscapes]
  refine pieces_join (by simp [pieces_ne_nil]) fun p hp hmem => ?_
  obtain ⟨l, hl, rfl⟩ := List.mem_map.mp hp
  exact (mem_of_mem_pieces hl (mem_of_mem_unescapedLine hmem)).2 rfl

/-! ### Tabs -/

theorem mem_of_mem_expandChars {c : Char} (hc : c ≠ ' ') : ∀ (col : Nat) {cs : List Char},
    c ∈ (StyledText.expandChars col cs).1.flatten → c ∈ cs
  | _, [], h => by cases h
  | col, d :: r, h => by
    rw [StyledText.expandChars] at h
    split_ifs at h
    · rw [List.flatten_cons, List.mem_append] at h
      rcases h with h | h
      · exact absurd (List.eq_of_mem_replicate h) hc
      · exact List.mem_cons_of_mem d (mem_of_mem_expandChars hc _ h)
    · rw [flatten_consPiece, List.mem_cons] at h
      rcases h with rfl | h
      · exact List.mem_cons_self
      · exact List.mem_cons_of_mem d (mem_of_mem_expandChars hc _ h)

theorem mem_of_mem_expanded {c : Char} (hc : c ≠ ' ') {cs : List Char} (h : c ∈ expanded cs) :
    c ∈ cs := mem_of_mem_expandChars hc 0 h

theorem length_le_expandChars : ∀ (col : Nat) (cs : List Char),
    cs.length ≤ (StyledText.expandChars col cs).1.flatten.length
  | _, [] => Nat.le_refl _
  | col, c :: r => by
    rw [StyledText.expandChars]
    split_ifs
    · -- a tab is at least one space
      have hstop : col < StyledText.tabStop col := by
        rw [StyledText.tabStop]
        omega
      have ih := length_le_expandChars (StyledText.tabStop col) r
      simp only [List.flatten_cons, List.length_append, List.length_replicate, List.length_cons]
      omega
    · have ih := length_le_expandChars (col + Text.charWidth c) r
      simp only [flatten_consPiece, List.length_cons]
      omega

theorem length_le_expanded (cs : List Char) : cs.length ≤ (expanded cs).length :=
  length_le_expandChars 0 cs

theorem expanded_eq_self {cs : List Char} (h : '\t' ∉ cs) : expanded cs = cs :=
  flatten_expandChars 0 h

/-- Where a word without tabs stands behind others. -/
theorem exists_expanded_append {word : List Char} (h : '\t' ∉ word) (front back : List Char) :
    ∃ tail, expanded (front ++ (word ++ back)) = expanded front ++ (word ++ tail) := by
  unfold expanded
  rw [StyledText.flatten_expandChars_append, StyledText.flatten_expandChars_append,
    flatten_expandChars _ h]
  exact ⟨_, rfl⟩

/-! ### Reading what was written -/

theorem newline_not_mem_lines {t l : StyledText} (h : l ∈ StyledText.lines t) :
    '\n' ∉ StyledText.chars l := by
  have hmem : StyledText.chars l ∈ pieces '\n' (StyledText.chars t) := by
    rw [← StyledText.map_chars_lines]
    exact List.mem_map_of_mem h
  exact fun hc => (mem_of_mem_pieces hmem hc).2 rfl

/-- A character between blanks and digits is written for itself only. -/
theorem not_mem_ansiLine {c : Char} (hc : c ≠ ' ' ∧ c ∉ [StyledText.escape, '[', 'm'] ∧
    between '0' '?' c = false) {l : StyledText} (h : c ∉ StyledText.chars l) :
    c ∉ StyledText.ansiLine (StyledText.expandTabs l) := by
  intro hmem
  rcases mem_of_mem_ansiLine hmem with hmem | hmem | hmem
  · rw [StyledText.chars_expandTabs] at hmem
    exact h (mem_of_mem_expanded hc.1 hmem)
  · exact hc.2.1 hmem
  · rw [hc.2.2] at hmem
    cases hmem

theorem pieces_ansi (t : StyledText) : pieces '\n' (StyledText.ansi t).toList =
    (StyledText.lines t).map fun l => StyledText.ansiLine (StyledText.expandTabs l) := by
  rw [StyledText.ansi, String.toList_ofList]
  refine pieces_join (by simp [StyledText.lines_ne_nil]) fun p hp => ?_
  obtain ⟨l, hl, rfl⟩ := List.mem_map.mp hp
  exact not_mem_ansiLine (by decide) (newline_not_mem_lines hl)

/-- The characters of a line that is read as it was written, but for its tabs. -/
def Legible (cs : List Char) : Prop :=
  ∀ c ∈ cs, c ≠ '\n' ∧ c ≠ StyledText.escape ∧ isDropped c = false

instance (cs : List Char) : Decidable (Legible cs) :=
  List.decidableBAll (fun c => c ≠ '\n' ∧ c ≠ StyledText.escape ∧ isDropped c = false) cs

theorem legible_append {cs ds : List Char} : Legible (cs ++ ds) ↔ Legible cs ∧ Legible ds := by
  unfold Legible
  exact List.forall_mem_append

theorem legible_replicate {c : Char} (h : Legible [c]) (n : Nat) :
    Legible (List.replicate n c) := by
  intro d hd
  rw [List.eq_of_mem_replicate hd]
  exact h c (List.mem_singleton_self c)

theorem legible_repr (n : Nat) : Legible (Nat.repr n).toList := by
  intro c hc
  have hkept := List.filter_eq_self.mp (kept_repr n) c hc
  refine ⟨?_, ?_, by simpa using hkept⟩
  · rintro rfl
    exact not_mem_repr (by decide) n hc
  · rintro rfl
    exact not_mem_repr (by decide) n hc

theorem Legible.kept {cs : List Char} (h : Legible cs) : Legible (kept cs) :=
  fun c hc => h c (List.mem_of_mem_filter hc)

theorem unescapedLine_ansiLine {l : StyledText} (h : Legible (StyledText.chars l)) :
    unescapedLine (StyledText.ansiLine (StyledText.expandTabs l)) =
      expanded (StyledText.chars l) := by
  have hreturn : '\r' ∉ StyledText.chars l := fun hmem => by
    have hdropped := (h _ hmem).2.2
    exact absurd hdropped (by decide)
  have hafter : afterReturn (StyledText.ansiLine (StyledText.expandTabs l)) =
      StyledText.ansiLine (StyledText.expandTabs l) := by
    rw [afterReturn, pieces_of_not_mem (not_mem_ansiLine (by decide) hreturn)]
    rfl
  have hescape : StyledText.escape ∉ StyledText.chars (StyledText.expandTabs l) := by
    rw [StyledText.chars_expandTabs]
    exact fun hmem => (h _ (mem_of_mem_expanded (by decide) hmem)).2.1 rfl
  rw [unescapedLine, hafter, linePieces_ansiLine hescape, StyledText.chars_expandTabs]
  refine List.filter_eq_self.mpr fun c hc => ?_
  by_cases hblank : c = ' '
  · rw [hblank]
    rfl
  · rw [(h c (mem_of_mem_expanded hblank hc)).2.2]
    rfl

/-- **The last lines of a text**, written with escape sequences and read back. -/
theorem pieces_ofEscapes_ansi {t : StyledText} {above below : List (List Char)}
    (h : pieces '\n' (StyledText.chars t) = above ++ below) (hbelow : ∀ l ∈ below, Legible l) :
    ∃ above', pieces '\n' (StyledText.chars (ofEscapes (StyledText.ansi t))) =
      above' ++ below.map expanded := by
  rw [← StyledText.map_chars_lines] at h
  obtain ⟨xs, ys, hlines, -, rfl⟩ := List.map_eq_append_iff.mp h
  have hread : (ys.map fun l => StyledText.ansiLine (StyledText.expandTabs l)).map unescapedLine =
      (ys.map StyledText.chars).map expanded := by
    rw [List.map_map, List.map_map]
    exact List.map_congr_left fun l hl =>
      unescapedLine_ansiLine (hbelow _ (List.mem_map_of_mem hl))
  rw [pieces_ofEscapes, pieces_ansi, hlines, List.map_append, List.map_append, hread]
  exact ⟨_, rfl⟩

/-- **The last rows of a message**, written with escape sequences and read back. -/
theorem pieces_ofEscapes_render {m : Message} {above below : List (List Char)}
    (habove : above ≠ []) (hne : below ≠ [])
    (hrows : m.rows.map StyledText.chars = above ++ below) (hbelow : ∀ l ∈ below, Legible l) :
    ∃ above', pieces '\n' (StyledText.chars (ofEscapes (Rendering.styled.render m))) =
      above' ++ below.map expanded := by
  have hpieces : pieces '\n' (StyledText.chars m.text) =
      pieces '\n' (join ['\n'] above) ++ below := by
    rw [Message.text, StyledText.chars_join, hrows]
    exact pieces_join_append habove hne fun l hl hmem => (hbelow l hl _ hmem).1 rfl
  exact pieces_ofEscapes_ansi hpieces hbelow

end Styled

end HouseRules
