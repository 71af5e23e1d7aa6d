import HouseRules.Proofs.Report.Shown

/-! # Escape sequences read back

A styled text is written with escape sequences line by line, its tabs as spaces. Read back, each
sequence is a switch of styles and every other character is itself (`linePieces_ansiLine`), so
nothing but the styles can get lost: without tabs, escape characters and characters that are dropped
the text that is read has the characters of the one that was written (`chars_ofEscapes_ansi`). For a
screen that trims its lines the same is written, if it finds nothing to trim
(`ansiTrimmed_eq_ansi`). -/

namespace HouseRules

namespace Styled

open Search

/-! ### Lines -/

namespace StyledText

theorem chars_append (t u : StyledText) : chars (t ++ u) = chars t ++ chars u :=
  List.flatMap_append

theorem lines_ne_nil : ∀ t : StyledText, lines t ≠ []
  | [] => List.cons_ne_nil _ _
  | s :: r => by
    rw [lines]
    have hjoin : ∀ ps : List (List Char), ps ≠ [] → joinLines ps s.style (lines r) ≠ [] := by
      intro ps hps
      match ps, lines r with
      | [], _ => exact absurd rfl hps
      | [p], [] => exact List.cons_ne_nil _ _
      | [p], l :: ls => exact List.cons_ne_nil _ _
      | p :: q :: ps, _ => exact List.cons_ne_nil _ _
    exact hjoin _ (pieces_ne_nil '\n' s.chars)

/-- **The characters of the lines** are the pieces of the text between line feeds. -/
theorem map_chars_lines : ∀ t : StyledText, (lines t).map chars = pieces '\n' (chars t)
  | [] => rfl
  | s :: r => by
    have ih := map_chars_lines r
    obtain ⟨l, ls, hlines⟩ := List.exists_cons_of_ne_nil (lines_ne_nil r)
    rw [hlines, List.map_cons] at ih
    have hjoin : ∀ ps : List (List Char), ps ≠ [] →
        (∀ p ∈ ps, '\n' ∉ p) → (joinLines ps s.style (l :: ls)).map chars =
          pieces '\n' (join ['\n'] ps ++ chars r) := by
      intro ps
      induction ps with
      | nil => exact fun h => absurd rfl h
      | cons p ps ihps =>
        intro _ hps
        have hp := hps p List.mem_cons_self
        cases ps with
        | nil =>
          obtain ⟨q, qs, hr, hpr⟩ := pieces_append_left (chars r) hp
          rw [← ih, List.cons.injEq] at hr
          rw [join, hpr, ← hr.1, ← hr.2]
          rfl
        | cons q ps =>
          have hrest := ihps (List.cons_ne_nil q ps) fun p' hp' =>
            hps p' (List.mem_cons_of_mem p hp')
          rw [join, List.append_assoc, List.append_assoc, List.singleton_append, pieces_append _ hp,
            ← hrest]
          have hsingle : chars [⟨p, s.style⟩] = p := List.append_nil p
          rw [joinLines, List.map_cons, hsingle]
          exact List.cons_ne_nil q ps
    have hpieces : ∀ p ∈ pieces '\n' s.chars, '\n' ∉ p := fun p hp hmem =>
      (mem_of_mem_pieces hp hmem).2 rfl
    rw [lines, hlines, hjoin _ (pieces_ne_nil '\n' s.chars) hpieces, join_pieces, chars_cons]

theorem flatten_expandChars_append (ds : List Char) : ∀ (col : Nat) (cs : List Char),
    (expandChars col (cs ++ ds)).1.flatten =
      (expandChars col cs).1.flatten ++ (expandChars (expandChars col cs).2 ds).1.flatten
  | _, [] => rfl
  | col, c :: cs => by
    rw [List.cons_append, expandChars, expandChars]
    split_ifs
    · simp only [List.flatten_cons, flatten_expandChars_append ds, List.append_assoc]
    · simp only [flatten_consPiece, flatten_expandChars_append ds, List.cons_append]

/-- The characters of a line with its tabs as spaces. -/
theorem chars_expandTabs (t : StyledText) : chars (expandTabs t) = expanded (chars t) := by
  have hmap : ∀ (ps : List (List Char)) (style : Style),
      chars (ps.map (⟨·, style⟩)) = ps.flatten := by
    intro ps style
    rw [chars, List.flatMap_map]
    exact List.flatMap_id'
  have hfrom : ∀ (t : StyledText) (col : Nat),
      chars (expandTabsFrom col t) = (expandChars col (chars t)).1.flatten := by
    intro t
    induction t with
    | nil => exact fun _ => rfl
    | cons s t ih =>
      intro col
      rw [expandTabsFrom, chars_cons, flatten_expandChars_append]
      simp only [chars_append, hmap, ih]
  exact hfrom t 0

end StyledText

/-! ### Sequences -/

/-- The character of a piece. -/
def Piece.char? : Piece → Option Char
  | .char c => some c
  | _ => none

theorem linePieces_cons_of_ne {c : Char} (h : c ≠ StyledText.escape) (r : List Char) :
    linePieces false (c :: r) = .char c :: linePieces false r := by
  rw [linePieces, if_neg h]
  rfl

/-- Characters that are no escape characters are read as they are. -/
theorem linePieces_append {r : List Char} : ∀ {cs : List Char}, StyledText.escape ∉ cs →
    linePieces false (cs ++ r) = cs.map .char ++ linePieces false r
  | [], _ => rfl
  | c :: cs, h => by
    rw [List.mem_cons, not_or] at h
    rw [List.cons_append, linePieces_cons_of_ne (Ne.symm h.1), linePieces_append h.2]
    rfl

/-- The characters between the brackets and the final letter of a switch of styles. -/
def codeChars (codes : List Nat) : List Char := (";".intercalate (codes.map Nat.repr)).toList

theorem sgr_eq (codes : List Nat) :
    StyledText.sgr codes = StyledText.escape :: '[' :: codeChars codes ++ ['m'] := rfl

theorem between_of_mem_codeChars {codes : List Nat} {c : Char} (h : c ∈ codeChars codes) :
    between '0' '?' c = true := by
  have hdigit : ∀ n, ∀ c ∈ (Nat.repr n).toList, between '0' '?' c = true := by
    intro n c hc
    rw [Nat.toList_repr] at hc
    have hd : c.isDigit = true := Nat.isDigit_of_mem_toDigits (by decide) (by decide) hc
    rw [Char.isDigit, Bool.and_eq_true, decide_eq_true_eq, decide_eq_true_eq] at hd
    rw [between, Bool.and_eq_true, decide_eq_true_eq, decide_eq_true_eq]
    exact ⟨hd.1, UInt32.le_trans hd.2 (by decide)⟩
  rw [codeChars, String.toList_intercalate] at h
  induction codes with
  | nil => cases h
  | cons n codes ih =>
    cases codes with
    | nil => exact hdigit n c (by simpa using h)
    | cons m codes =>
      rw [List.map_cons, List.map_cons, List.map_cons, List.map_cons,
        List.intercalate_cons_cons, List.mem_append, List.mem_append] at h
      rcases h with (h | h) | h
      · exact hdigit n c h
      · have hsemicolon : c = ';' := by simpa using h
        rw [hsemicolon]
        decide
      · exact ih h

/-- A switch of styles is read as one piece. -/
theorem linePieces_sgr (codes : List Nat) (r : List Char) :
    ∃ codes', linePieces false (StyledText.sgr codes ++ r) =
      .codes codes' :: linePieces false r := by
  have htake : (codeChars codes ++ 'm' :: r).takeWhile (between '0' '?') = codeChars codes := by
    rw [List.takeWhile_append_of_pos fun c hc => between_of_mem_codeChars hc,
      List.takeWhile_cons_of_neg (by decide), List.append_nil]
  have hsequence : sequence? ('[' :: (codeChars codes ++ 'm' :: r)) =
      some (.style (codesOf (codeChars codes)), 2 + (codeChars codes).length) := by
    have hmiddle : ('m' :: r).takeWhile (between ' ' '/') = [] :=
      List.takeWhile_cons_of_neg (by decide)
    have hbracket : between '0' '?' '[' = false := by decide
    have hlast : between '@' '~' 'm' = true := by decide
    simp [sequence?, htake, hmiddle, hbracket, hlast]
  refine ⟨codesOf (codeChars codes), ?_⟩
  have hdrop : ('[' :: (codeChars codes ++ 'm' :: r)).drop (2 + (codeChars codes).length) = r := by
    rw [show 2 + (codeChars codes).length = (codeChars codes).length + 1 + 1 by omega,
      List.drop_succ_cons, ← List.drop_drop, List.drop_left]
    rfl
  have hsgr : StyledText.sgr codes ++ r =
      StyledText.escape :: ('[' :: (codeChars codes ++ 'm' :: r)) := by
    simp [sgr_eq]
  rw [hsgr, linePieces, if_pos rfl, hsequence]
  simp only [hdrop]
  rfl

/-- **A written span is read as its characters**, between switches of styles. -/
theorem linePieces_ansiSpan {s : Span} (h : StyledText.escape ∉ s.chars) (r : List Char) :
    (linePieces false (StyledText.ansiSpan s ++ r)).filterMap Piece.char? =
      s.chars ++ (linePieces false r).filterMap Piece.char? := by
  have hchars : ∀ cs : List Char, (cs.map Piece.char).filterMap Piece.char? = cs := by
    intro cs
    rw [List.filterMap_map]
    exact List.filterMap_some
  unfold StyledText.ansiSpan
  split_ifs with hnil hplain
  · rw [hnil]
    rfl
  · rw [linePieces_append h, List.filterMap_append, hchars]
  · obtain ⟨on, hon⟩ := linePieces_sgr s.style.codes (s.chars ++ (StyledText.sgr [0] ++ r))
    obtain ⟨off, hoff⟩ := linePieces_sgr [0] r
    rw [List.append_assoc, List.append_assoc, hon, linePieces_append h, hoff,
      List.filterMap_cons_none rfl, List.filterMap_append, hchars, List.filterMap_cons_none rfl]

/-- A written line is read as its characters. -/
theorem linePieces_ansiLine : ∀ {t : StyledText}, StyledText.escape ∉ StyledText.chars t →
    (linePieces false (StyledText.ansiLine t)).filterMap Piece.char? = StyledText.chars t
  | [], _ => by
    change (linePieces false []).filterMap Piece.char? = []
    rw [linePieces]
    rfl
  | s :: t, h => by
    rw [StyledText.chars_cons, List.mem_append, not_or] at h
    rw [StyledText.ansiLine, List.flatMap_cons, linePieces_ansiSpan h.1, StyledText.chars_cons]
    exact congrArg _ (linePieces_ansiLine h.2)

/-- Apart from the characters of the line only sequences are written. -/
theorem mem_of_mem_ansiLine {t : StyledText} {c : Char} (h : c ∈ StyledText.ansiLine t) :
    c ∈ StyledText.chars t ∨ c ∈ [StyledText.escape, '[', 'm'] ∨ between '0' '?' c = true := by
  have hsgr : ∀ {codes : List Nat}, c ∈ StyledText.sgr codes →
      c ∈ [StyledText.escape, '[', 'm'] ∨ between '0' '?' c = true := by
    intro codes hc
    rw [sgr_eq, List.mem_append, List.mem_cons, List.mem_cons, List.mem_singleton] at hc
    rcases hc with (rfl | rfl | hc) | rfl
    · exact Or.inl (by simp)
    · exact Or.inl (by simp)
    · exact Or.inr (between_of_mem_codeChars hc)
    · exact Or.inl (by simp)
  obtain ⟨s, hs, hc⟩ := List.mem_flatMap.mp h
  have hmem : ∀ {c}, c ∈ s.chars → c ∈ StyledText.chars t := fun hc =>
    List.mem_flatMap.mpr ⟨s, hs, hc⟩
  unfold StyledText.ansiSpan at hc
  split_ifs at hc
  · cases hc
  · exact Or.inl (hmem hc)
  · rw [List.mem_append, List.mem_append] at hc
    rcases hc with (hc | hc) | hc
    · exact Or.inr (hsgr hc)
    · exact Or.inl (hmem hc)
    · exact Or.inr (hsgr hc)

/-! ### Texts -/

theorem chars_spansOf : ∀ (s : Style) (ps : List Piece),
    StyledText.chars (spansOf s ps).1 = ps.filterMap Piece.char?
  | _, [] => rfl
  | s, .codes codes :: r => by
    rw [spansOf, List.filterMap_cons_none rfl, ← chars_spansOf (applyCodes s codes) r]
    rfl
  | s, .nothing :: r => by
    rw [spansOf, List.filterMap_cons_none rfl, ← chars_spansOf s r]
    rfl
  | s, .char c :: r => by
    have ih := chars_spansOf s r
    have hchar : Piece.char? (.char c) = some c := rfl
    rw [spansOf, List.filterMap_cons_some hchar, ← ih]
    rcases spansOf s r with ⟨_ | ⟨x, t⟩, last⟩ <;> rfl

theorem chars_joinLines : ∀ ls : List StyledText,
    StyledText.chars (joinLines ls) = join ['\n'] (ls.map StyledText.chars)
  | [] => rfl
  | [l] => rfl
  | l :: l' :: r => by
    rw [joinLines, StyledText.chars_append, StyledText.chars_cons, chars_joinLines (l' :: r)]
    · simp only [List.map_cons, join, List.append_assoc]
    · exact List.cons_ne_nil l' r

/-- The lines that are read have the characters of the lines that were written. -/
theorem map_chars_linesOf : ∀ (s : Style) {ls : List StyledText},
    (∀ l ∈ ls, StyledText.escape ∉ StyledText.chars l ∧ '\r' ∉ StyledText.chars l) →
    (linesOf s (ls.map StyledText.ansiLine)).map StyledText.chars = ls.map StyledText.chars
  | _, [], _ => rfl
  | s, l :: ls, h => by
    obtain ⟨hescape, hreturn⟩ := h l List.mem_cons_self
    have hreturn' : '\r' ∉ StyledText.ansiLine l := by
      intro hmem
      rcases mem_of_mem_ansiLine hmem with hmem | hmem | hmem
      · exact hreturn hmem
      · exact absurd hmem (by decide)
      · exact absurd hmem (by decide)
    have hafter : afterReturn (StyledText.ansiLine l) = StyledText.ansiLine l := by
      rw [afterReturn, pieces_of_not_mem hreturn']
      rfl
    rw [List.map_cons, linesOf, List.map_cons, List.map_cons, hafter, chars_spansOf,
      linePieces_ansiLine hescape,
      map_chars_linesOf _ fun l' hl' => h l' (List.mem_cons_of_mem l hl')]

/-- Spans without characters can be left out. -/
theorem chars_filter_ne_nil (t : StyledText) :
    StyledText.chars (t.filter (·.chars ≠ [])) = StyledText.chars t := by
  induction t with
  | nil => rfl
  | cons s t ih =>
    by_cases hnil : s.chars = []
    · rw [List.filter_cons_of_neg (by simp [hnil]), StyledText.chars_cons, hnil, ih]
      rfl
    · rw [List.filter_cons_of_pos (by simp [hnil]), StyledText.chars_cons, ih]
      rfl

theorem map_kept_eq {t : StyledText} (h : ∀ c ∈ StyledText.chars t, isDropped c = false) :
    (t.map fun s => { s with chars := kept s.chars }) = t := by
  have hspan : ∀ s ∈ t, { s with chars := kept s.chars } = s := by
    intro s hs
    have hkept : kept s.chars = s.chars := List.filter_eq_self.mpr fun c hc => by
      rw [h c (List.mem_flatMap.mpr ⟨s, hs, hc⟩)]
      rfl
    rw [hkept]
  exact (List.map_congr_left hspan).trans (List.map_id t)

/-- A text that comes back as it was: it has no tabs, no escape characters and nothing that is
dropped. -/
def Clean (t : StyledText) : Prop :=
  ∀ c ∈ StyledText.chars t, c ≠ '\t' ∧ c ≠ StyledText.escape ∧ isDropped c = false

/-- **What is written with escape sequences is read back.** -/
theorem chars_ofEscapes_ansi {t : StyledText} (h : Clean t) :
    StyledText.chars (ofEscapes (StyledText.ansi t)) = StyledText.chars t := by
  have hline : ∀ l ∈ StyledText.lines t, ∀ c ∈ StyledText.chars l,
      c ∈ StyledText.chars t ∧ c ≠ '\n' := by
    intro l hl c hc
    have hmem : StyledText.chars l ∈ pieces '\n' (StyledText.chars t) := by
      rw [← StyledText.map_chars_lines]
      exact List.mem_map_of_mem hl
    exact mem_of_mem_pieces hmem hc
  have hexpand : ∀ l ∈ StyledText.lines t,
      StyledText.chars (StyledText.expandTabs l) = StyledText.chars l := by
    intro l hl
    rw [StyledText.chars_expandTabs, expanded]
    exact flatten_expandChars 0 fun htab => (h _ (hline l hl _ htab).1).1 rfl
  -- the written lines, each without line feeds
  let written := (StyledText.lines t).map StyledText.expandTabs
  have hwritten : ∀ l ∈ written, ∀ c ∈ StyledText.chars l, c ∈ StyledText.chars t ∧ c ≠ '\n' := by
    intro l hl c hc
    obtain ⟨l', hl', rfl⟩ := List.mem_map.mp hl
    rw [hexpand l' hl'] at hc
    exact hline l' hl' c hc
  have hchars : written.map StyledText.chars = pieces '\n' (StyledText.chars t) := by
    rw [← StyledText.map_chars_lines, List.map_map]
    exact List.map_congr_left hexpand
  have hpieces : pieces '\n' (StyledText.ansi t).toList = written.map StyledText.ansiLine := by
    have htext : (StyledText.ansi t).toList = join ['\n'] (written.map StyledText.ansiLine) := by
      rw [StyledText.ansi, String.toList_ofList, List.map_map]
      rfl
    rw [htext]
    refine pieces_join ?_ fun p hp hmem => ?_
    · simp [written, StyledText.lines_ne_nil]
    · obtain ⟨l, hl, rfl⟩ := List.mem_map.mp hp
      rcases mem_of_mem_ansiLine hmem with hmem | hmem | hmem
      · exact (hwritten l hl _ hmem).2 rfl
      · exact absurd hmem (by decide)
      · exact absurd hmem (by decide)
  let read := joinLines (linesOf .plain (pieces '\n' (StyledText.ansi t).toList))
  have hread : StyledText.chars read = StyledText.chars t := by
    rw [chars_joinLines, hpieces, map_chars_linesOf .plain, hchars, join_pieces]
    intro l hl
    refine ⟨fun hc => (h _ (hwritten l hl _ hc).1).2.1 rfl, fun hc => ?_⟩
    exact absurd (h _ (hwritten l hl _ hc).1).2.2 (by decide)
  have hdropped : ∀ c ∈ StyledText.chars read, isDropped c = false := by
    rw [hread]
    exact fun c hc => (h c hc).2.2
  rw [ofEscapes, map_kept_eq hdropped, chars_filter_ne_nil, hread]

/-! ### Lines that are trimmed -/

/-- All characters of a line are written as the line: spans without characters do not show. -/
theorem ansiLine_takeChars : ∀ t : StyledText,
    StyledText.ansiLine (StyledText.takeChars (StyledText.chars t).length t) = StyledText.ansiLine t
  | [] => rfl
  | s :: t => by
    have ih := ansiLine_takeChars t
    unfold StyledText.takeChars at ih ⊢
    rw [StyledText.splitAt, StyledText.chars_cons, List.length_append]
    split_ifs with hzero hlt
    · have hs : s.chars = [] := List.eq_nil_of_length_eq_zero (by omega)
      have ht : (StyledText.chars t).length = 0 := by omega
      have hnone : (StyledText.splitAt 0 t).1 = [] := by cases t <;> rfl
      rw [ht, hnone] at ih
      change [] = StyledText.ansiSpan s ++ StyledText.ansiLine t
      rw [StyledText.ansiSpan, if_pos hs, ← ih]
      rfl
    · omega
    · rw [Nat.add_sub_cancel_left]
      exact congrArg (StyledText.ansiSpan s ++ ·) ih

theorem ansiLine_dropExcess {width : Nat} {t : StyledText}
    (h : dropExcessChars width (StyledText.chars t) = StyledText.chars t) :
    StyledText.ansiLine (dropExcess width t) = StyledText.ansiLine t := by
  have hlength := congrArg List.length h
  rw [dropExcessChars, List.length_take, Nat.min_eq_left (Nat.sub_le _ _)] at hlength
  unfold dropExcess
  dsimp only
  rw [hlength]
  exact ansiLine_takeChars t

/-- **Nothing is trimmed** in a text of which no line, its tabs as spaces, is wider than the screen
and ends with a blank. -/
theorem ansiTrimmed_eq_ansi {columns : Nat} {t : StyledText}
    (h : ∀ p ∈ pieces '\n' (StyledText.chars t), columns < (expanded p).length →
      ∀ c ∈ (expanded p).getLast?, Text.isBlank c = false) :
    ansiTrimmed columns t = StyledText.ansi t := by
  unfold ansiTrimmed StyledText.ansi
  refine congrArg (fun ls => String.ofList (join ['\n'] ls)) (List.map_congr_left fun l hl => ?_)
  have hpiece : StyledText.chars l ∈ pieces '\n' (StyledText.chars t) := by
    rw [← StyledText.map_chars_lines]
    exact List.mem_map_of_mem hl
  refine ansiLine_dropExcess ?_
  rw [StyledText.chars_expandTabs]
  exact dropExcessChars_eq_self (h _ hpiece)

end Styled
end HouseRules
