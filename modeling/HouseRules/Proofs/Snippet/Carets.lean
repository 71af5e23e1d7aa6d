import HouseRules.Proofs.Snippet.TextLines

/-! # Carets stand below the marked characters

A snippet marks the characters from `a` up to `b` of its source (`MarksChars`). Then line `i` of
the marked lines is followed by a row with a caret below each of its characters that are marked, or
with one caret if there are none. The columns are found from bytes by three rules, for the first
line, the last line and those between them; `MarksChars.bounds` says how `a` and `b` lie to the ends
of a line in each case, and from this all three give the same columns (`caretStart_eq`,
`carets_eq`). -/

namespace HouseRules.Snippet

open LineIndex Styled

/-! ### Lines and characters of a snippet -/

/-- Line `i` of the source without its line feed. -/
def sourceLine (s : Snippet) (i : Nat) : List Char := (textLines s.source.toList)[i]?.getD []

/-- How many characters stand before line `i`. -/
def lineStart (s : Snippet) (i : Nat) : Nat := (front (textLines s.source.toList) i).length

/-- The line of character `a`: the number of line feeds before it. -/
def lineAt (s : Snippet) (a : Nat) : Nat := (s.source.toList.take a).count '\n'

/-- **The marked bytes are those of the characters** from `a` up to `b`. -/
structure MarksChars (s : Snippet) (a b : Nat) : Prop where
  lt : a < b
  le : b ≤ s.source.toList.length
  range : s.range = ⟨((Utf8.encodeList (s.source.toList.take a)).length : Int),
    ((Utf8.encodeList (s.source.toList.take b)).length : Int)⟩
  /-- The last of them is no line feed. -/
  last : s.source.toList[b - 1]? ≠ some '\n'
  /-- The source shows all its characters. -/
  shown : ∀ c ∈ s.source.toList, isDropped c = false

/-- How many characters of line `i` stand before character `a`. -/
def charsBefore (s : Snippet) (a i : Nat) : Nat :=
  (List.range (s.sourceLine i).length).countP fun j => s.lineStart i + j < a

/-- How many characters of line `i` are marked. -/
def charsWithin (s : Snippet) (a b i : Nat) : Nat :=
  (List.range (s.sourceLine i).length).countP fun j =>
    a ≤ s.lineStart i + j ∧ s.lineStart i + j < b

/-- The lines that are shown. -/
def shownNumbers (s : Snippet) (a b : Nat) : List Nat :=
  if s.fold then List.range' (s.lineAt a) (s.lineAt b + 1 - s.lineAt a)
  else List.range (textLines s.source.toList).length

def numberWidth (s : Snippet) (a b : Nat) : Nat :=
  (Nat.repr ((s.shownNumbers a b).getLastD 0 + 1)).length

/-- The row of carets below line `i`. -/
def caretsBelow (s : Snippet) (a b i : Nat) : List Char :=
  List.replicate (s.numberWidth a b) ' ' ++ (" | ".toList ++
    (List.replicate (s.charsBefore a i) ' ' ++ (List.replicate (max 1 (s.charsWithin a b i)) '^' ++
      if i = s.lineAt b ∧ s.label ≠ "" then ' ' :: kept s.label.toList else [])))

/-- The rows for line `i`. -/
def lineWithCarets (s : Snippet) (a b i : Nat) : List (List Char) :=
  (List.replicate (s.numberWidth a b - (Nat.repr (i + 1)).length) ' ' ++
    ((Nat.repr (i + 1)).toList ++ (" | ".toList ++ s.sourceLine i))) ::
    if s.lineAt a ≤ i ∧ i ≤ s.lineAt b then [s.caretsBelow a b i] else []

/-- **The rows of a snippet** that marks the characters from `a` up to `b`. -/
def rowsWithCarets (s : Snippet) (a b : Nat) : List (List Char) :=
  let pad := List.replicate (s.numberWidth a b) ' '
  [pad ++ ("--> ".toList ++ (kept s.origin.toList ++ (':' :: (Nat.repr (s.lineAt a + 1)).toList ++
      ':' :: (Nat.repr (s.charsBefore a (s.lineAt a) + 1)).toList))),
    pad ++ " |".toList] ++
    (s.shownNumbers a b).flatMap (s.lineWithCarets a b) ++ [pad ++ " |".toList]

/-! ### Counting characters -/

theorem countP_range (n lo hi : Nat) :
    ((List.range n).countP fun j => lo ≤ j ∧ j < hi) = min n hi - lo := by
  induction n with
  | zero => simp
  | succ n ih =>
    rw [List.range_succ, List.countP_append, ih, List.countP_singleton]
    split
    · rename_i h
      rw [decide_eq_true_eq] at h
      omega
    · rename_i h
      rw [decide_eq_true_eq] at h
      omega

variable {s : Snippet} {a b i : Nat}

theorem charsBefore_eq (s : Snippet) (a i : Nat) :
    s.charsBefore a i = min (s.sourceLine i).length (a - s.lineStart i) := by
  have hcount := countP_range (s.sourceLine i).length 0 (a - s.lineStart i)
  rw [Nat.sub_zero] at hcount
  rw [charsBefore, ← hcount]
  refine List.countP_congr fun j _ => ?_
  simp only [decide_eq_true_eq]
  omega

theorem charsWithin_eq (s : Snippet) (a b i : Nat) : s.charsWithin a b i =
    min (s.sourceLine i).length (b - s.lineStart i) - (a - s.lineStart i) := by
  rw [charsWithin, ← countP_range]
  refine List.countP_congr fun j _ => ?_
  simp only [decide_eq_true_eq]
  omega

/-! ### The ends of a line -/

/-- Character `a` stands in its line or right behind it. -/
theorem exists_lineAt (ha : a ≤ s.source.toList.length) : ∃ l,
    (textLines s.source.toList)[s.lineAt a]? = some l ∧ s.lineStart (s.lineAt a) ≤ a ∧
      a ≤ s.lineStart (s.lineAt a) + l.length := by
  obtain ⟨part, tail, hline, hpart⟩ :=
    exists_part (s.source.toList.drop a) (s.source.toList.take a)
  rw [List.take_append_drop] at hline hpart
  have hlen := congrArg List.length hpart
  rw [List.length_append, List.length_take, Nat.min_eq_left ha] at hlen
  refine ⟨part ++ tail, hline, ?_, ?_⟩
  · rw [lineStart, lineAt]
    omega
  · rw [lineStart, lineAt, List.length_append]
    omega

theorem getElem?_textLines (hi : i < (textLines s.source.toList).length) :
    (textLines s.source.toList)[i]? = some (s.sourceLine i) := by
  rw [sourceLine, List.getElem?_eq_getElem hi]
  rfl

theorem lineAt_mono (s : Snippet) (h : a ≤ b) : s.lineAt a ≤ s.lineAt b :=
  (List.take_sublist_take_left h).count_le _

namespace MarksChars

variable (h : s.MarksChars a b)

include h

/-- **How the marked characters lie to a line.** They start in the first line and before each other
one; they end in the last line and behind each other one. -/
theorem bounds (hfirst : s.lineAt a ≤ i) (hlast : i ≤ s.lineAt b) :
    (textLines s.source.toList)[i]? = some (s.sourceLine i) ∧
    (if i = s.lineAt a then s.lineStart i ≤ a ∧ a ≤ s.lineStart i + (s.sourceLine i).length
      else a < s.lineStart i) ∧
    (if i = s.lineAt b then s.lineStart i ≤ b ∧ b ≤ s.lineStart i + (s.sourceLine i).length
      else s.lineStart i + (s.sourceLine i).length < b) := by
  have hlt := h.lt
  have hle := h.le
  obtain ⟨la, hla, ha, ha'⟩ := exists_lineAt (s := s) (a := a) (by omega)
  obtain ⟨lb, hlb, hb, hb'⟩ := exists_lineAt (s := s) (a := b) hle
  have hi : i < (textLines s.source.toList).length :=
    Nat.lt_of_le_of_lt hlast (List.getElem?_eq_some_iff.mp hlb).1
  have hline := getElem?_textLines hi
  refine ⟨hline, ?_, ?_⟩
  · split
    · rename_i heq
      rw [heq] at hline ⊢
      cases hla.symm.trans hline
      exact ⟨ha, ha'⟩
    · rename_i hne
      -- The line of `a` ends, with its line feed, before line `i` starts.
      have hfront := length_front_lt hla (Nat.lt_of_le_of_ne hfirst (Ne.symm hne))
      rw [lineStart] at ha'
      rw [lineStart]
      omega
  · split
    · rename_i heq
      rw [heq] at hline ⊢
      cases hlb.symm.trans hline
      exact ⟨hb, hb'⟩
    · rename_i hne
      have hfront := length_front_lt hline (Nat.lt_of_le_of_ne hlast hne)
      rw [lineStart] at hb
      rw [lineStart]
      omega

/-! ### The layout -/

/-- The last marked character is no line feed, and the others stand before it. -/
theorem exists_last : ∃ mid c, s.source.toList.take b = s.source.toList.take a ++ (mid ++ [c]) ∧
    s.source.toList = (s.source.toList.take a ++ mid) ++ (c :: s.source.toList.drop b) ∧
    c ≠ '\n' := by
  have hlt := h.lt
  have hle := h.le
  have htake : s.source.toList.take b =
      s.source.toList.take a ++ (s.source.toList.take b).drop a := by
    conv_lhs => rw [← List.take_append_drop a (s.source.toList.take b), List.take_take,
      Nat.min_eq_left (Nat.le_of_lt hlt)]
  have hlen : ((s.source.toList.take b).drop a).length = b - a := by
    rw [List.length_drop, List.length_take, Nat.min_eq_left hle]
  rcases List.eq_nil_or_concat' ((s.source.toList.take b).drop a) with hnil | ⟨mid, c, hmid⟩
  · rw [hnil, List.length_nil] at hlen
    omega
  · rw [hmid] at htake hlen
    have hsource : s.source.toList =
        (s.source.toList.take a ++ mid) ++ (c :: s.source.toList.drop b) := by
      conv_lhs => rw [← List.take_append_drop b s.source.toList, htake]
      simp only [List.append_assoc, List.singleton_append]
    have hpos : b - 1 = (s.source.toList.take a ++ mid).length := by
      rw [List.length_append, List.length_singleton] at hlen
      rw [List.length_append, List.length_take, Nat.min_eq_left (by omega)]
      omega
    refine ⟨mid, c, htake, hsource, ?_⟩
    rintro rfl
    refine h.last ?_
    rw [hsource, hpos, List.getElem?_append_right (Nat.le_refl _), Nat.sub_self]
    rfl

theorem lineOf_start : (ofSource s.source).lineOf s.range.start = s.lineAt a := by
  rw [h.range]
  exact lineOf_part (List.take_append_drop a s.source.toList).symm

theorem lineOf_stop : (ofSource s.source).lineOf (s.range.stop - 1) = s.lineAt b := by
  obtain ⟨mid, c, htake, hsource, hc⟩ := h.exists_last
  have hline := lineOf_part_pred hsource hc
  rw [List.append_assoc, ← htake] at hline
  rw [h.range]
  exact hline

theorem start_lt_stop : s.range.start < s.range.stop := by
  obtain ⟨mid, c, htake, -, -⟩ := h.exists_last
  have hpos : 0 < (String.utf8EncodeChar c).length :=
    List.length_pos_iff.mpr String.utf8EncodeChar_ne_nil
  have hlen := congrArg (fun cs => (Utf8.encodeList cs).length) htake
  simp only [Utf8.encodeList_append, Utf8.encodeList_cons, Utf8.encodeList_nil,
    List.length_append, List.length_nil] at hlen
  rw [h.range]
  simp only
  omega

theorem layout_eq : s.layout =
    { index := ofSource s.source, range := s.range, first := s.lineAt a, last := s.lineAt b
      shown := s.shownNumbers a b, width := s.numberWidth a b } := by
  simp only [layout, if_pos h.start_lt_stop, h.lineOf_start, h.lineOf_stop, size_ofSource]
  rfl

/-! ### Columns -/

theorem columnOf_start :
    (ofSource s.source).columnOf s.range.start = s.charsBefore a (s.lineAt a) := by
  have hlt := h.lt
  have hle := h.le
  obtain ⟨-, hfirst, -⟩ := h.bounds (Nat.le_refl _) (s.lineAt_mono (Nat.le_of_lt hlt))
  have hcolumn := columnOf_part (List.take_append_drop a s.source.toList).symm
  rw [List.length_take, Nat.min_eq_left (by omega)] at hcolumn
  rw [if_pos rfl] at hfirst
  rw [h.range]
  refine hcolumn.trans ?_
  change a - s.lineStart (s.lineAt a) = _
  rw [charsBefore_eq]
  omega

/-- **The first caret below a line** stands behind the characters that are not marked yet. -/
theorem caretStart_eq (hfirst : s.lineAt a ≤ i) (hlast : i ≤ s.lineAt b) :
    s.layout.caretStart i = s.charsBefore a i := by
  rw [h.layout_eq, Layout.caretStart]
  simp only
  by_cases hi : i = s.lineAt a
  · rw [if_pos hi, h.columnOf_start, hi]
  · obtain ⟨-, hbefore, -⟩ := h.bounds hfirst hlast
    rw [if_neg hi] at hbefore
    rw [if_neg hi, charsBefore_eq]
    omega

theorem lineText_line (hi : i < (textLines s.source.toList).length) :
    (ofSource s.source).lineText i = String.ofList (s.sourceLine i) := by
  refine lineText_eq (getElem?_textLines hi) fun hreturn => ?_
  have hkept := h.shown _ hreturn
  exact absurd hkept (by decide)

/-- **As many carets** stand below a line as it has marked characters, at least one. -/
theorem carets_eq (hfirst : s.lineAt a ≤ i) (hlast : i ≤ s.lineAt b) :
    max (s.layout.caretStop i - s.layout.caretStart i) 1 = max 1 (s.charsWithin a b i) := by
  have hlt := h.lt
  have hle := h.le
  obtain ⟨hline, hbefore, hbehind⟩ := h.bounds hfirst hlast
  have hstop : s.layout.caretStop i =
      if i = s.lineAt b then b - s.lineStart i else (s.sourceLine i).length := by
    rw [h.layout_eq, Layout.caretStop]
    simp only
    split
    · rename_i hi
      have hwidth := widthUntil_part (List.take_append_drop b s.source.toList).symm
      rw [List.length_take, Nat.min_eq_left hle] at hwidth
      rw [hi, h.range]
      exact hwidth
    · rw [h.lineText_line (List.getElem?_eq_some_iff.mp hline).1, String.length_ofList]
  rw [hstop, h.caretStart_eq hfirst hlast, charsBefore_eq, charsWithin_eq]
  -- Line `i` is the first, the last, both or neither.
  split_ifs at hbefore hbehind ⊢ <;> omega

/-- Each caret stands below a marked character, and each marked character has a caret; in a line
without any there is one caret. -/
theorem caret_iff (hfirst : s.lineAt a ≤ i) (hlast : i ≤ s.lineAt b) (j : Nat) :
    (s.charsBefore a i ≤ j ∧ j < s.charsBefore a i + max 1 (s.charsWithin a b i)) ↔
      (j < (s.sourceLine i).length ∧ a ≤ s.lineStart i + j ∧ s.lineStart i + j < b) ∨
        s.charsWithin a b i = 0 ∧ j = s.charsBefore a i := by
  have hlt := h.lt
  obtain ⟨-, hbefore, hbehind⟩ := h.bounds hfirst hlast
  rw [charsBefore_eq, charsWithin_eq]
  split_ifs at hbefore hbehind <;> omega

/-! ### Rows -/

theorem lineWithCarets_eq (hi : i < (textLines s.source.toList).length) :
    (s.layout.rows s.label i).map StyledText.chars = s.lineWithCarets a b i := by
  have hkept : kept (s.sourceLine i) = s.sourceLine i := by
    obtain ⟨rest, hsplit, -, -⟩ := exists_rest (getElem?_textLines hi)
    refine List.filter_eq_self.mpr fun c hc => ?_
    have hmem : c ∈ s.source.toList := by
      rw [hsplit]
      exact List.mem_append_right _ (List.mem_append_left _ hc)
    rw [h.shown c hmem]
    rfl
  have hsource : StyledText.chars (s.layout.sourceRow i) =
      List.replicate (s.numberWidth a b - (Nat.repr (i + 1)).length) ' ' ++
        ((Nat.repr (i + 1)).toList ++ (" | ".toList ++ s.sourceLine i)) := by
    rw [Layout.chars_sourceRow, h.layout_eq]
    simp only [h.lineText_line hi, String.toList_ofList, hkept]
  have hmarks : s.layout.marks i = true ↔ s.lineAt a ≤ i ∧ i ≤ s.lineAt b := by
    rw [h.layout_eq, Layout.marks, Bool.and_eq_true, decide_eq_true_eq, decide_eq_true_eq]
  rw [Layout.rows, lineWithCarets]
  by_cases hi : s.lineAt a ≤ i ∧ i ≤ s.lineAt b
  · have hcarets : StyledText.chars (s.layout.caretRow s.label i) = s.caretsBelow a b i := by
      rw [Layout.chars_caretRow, h.carets_eq hi.1 hi.2, h.caretStart_eq hi.1 hi.2, caretsBelow,
        h.layout_eq]
    rw [if_pos (hmarks.mpr hi), if_pos hi, List.map_cons, List.map_singleton, hsource, hcarets]
  · rw [if_neg fun hm => hi (hmarks.mp hm), if_neg hi, List.map_singleton, hsource]

theorem lt_of_mem_shownNumbers (hi : i ∈ s.shownNumbers a b) :
    i < (textLines s.source.toList).length := by
  have hle := s.lineAt_mono (Nat.le_of_lt h.lt)
  unfold shownNumbers at hi
  split at hi
  · obtain ⟨l, hl, -, -⟩ := exists_lineAt h.le
    have hlast := (List.getElem?_eq_some_iff.mp hl).1
    rw [List.mem_range'_1] at hi
    omega
  · exact List.mem_range.mp hi

theorem rows_eq : s.rows.map StyledText.chars = s.rowsWithCarets a b := by
  have hlines : ((s.shownNumbers a b).flatMap (s.layout.rows s.label)).map StyledText.chars =
      (s.shownNumbers a b).flatMap (s.lineWithCarets a b) := by
    rw [List.map_flatMap]
    exact List.flatMap_congr fun i hi => h.lineWithCarets_eq (h.lt_of_mem_shownNumbers hi)
  have hlocation := s.layout.chars_locationRow s.origin
  have hbar := s.layout.chars_barRow
  have hshown : s.layout.shown = s.shownNumbers a b := by rw [h.layout_eq]
  rw [rows, hshown, rowsWithCarets, List.map_append, List.map_append, hlines, List.map_cons,
    List.map_singleton, hlocation, hbar, h.layout_eq]
  simp only [h.columnOf_start]

end MarksChars

/-- **Carets mark exactly the marked characters.** The message shows, among the rows of its other
parts, where the first marked character stands and the shown lines, each marked line with its row of
carets below it; a caret stands in the column of each marked character, and in a marked line without
marked characters there is one caret behind those that stand before. -/
theorem render_marksChars {s : Snippet} {a b : Nat} (h : s.MarksChars a b) {m : Message}
    {xs ys : List Snippet} (hm : m.snippets = xs ++ s :: ys) :
    Rendering.plain.render m = String.ofList (Search.join ['\n'] (
      (m.titleRow :: xs.flatMap Snippet.rows).map StyledText.chars ++ s.rowsWithCarets a b ++
        (ys.flatMap Snippet.rows ++ (m.help.map (Message.helpRow
          ((m.snippets.getLast?.map Snippet.pad).getD ""))).toList).map StyledText.chars)) ∧
    ∀ i, s.lineAt a ≤ i → i ≤ s.lineAt b → ∀ j,
      ((s.charsBefore a i ≤ j ∧ j < s.charsBefore a i + max 1 (s.charsWithin a b i)) ↔
        (j < (s.sourceLine i).length ∧ a ≤ s.lineStart i + j ∧ s.lineStart i + j < b) ∨
          s.charsWithin a b i = 0 ∧ j = s.charsBefore a i) := by
  refine ⟨?_, fun i hfirst hlast => h.caret_iff hfirst hlast⟩
  have hsnippets : m.snippets.flatMap Snippet.rows =
      xs.flatMap Snippet.rows ++ (s.rows ++ ys.flatMap Snippet.rows) := by
    rw [hm, List.flatMap_append, List.flatMap_cons]
  rw [Rendering.render, StyledText.plain, Message.text, StyledText.chars_join, Message.rows,
    ← h.rows_eq, hsnippets]
  simp only [List.map_append, List.map_cons, List.cons_append, List.append_assoc]

/-- A snippet of which all lines are shown; the marked ones are the first three. -/
def sampleSpan : Snippet where
  source := "aé\n\nbc d\ne"
  origin := "f"
  range := ⟨1, 7⟩
  label := "here"
  fold := false

/-- A region that starts with a character of two bytes and goes over an empty line. -/
theorem render_marksChars_sample : sampleSpan.MarksChars 1 6 ∧
    Rendering.plain.render { title := [bare "t"], snippets := [sampleSpan] } =
      "error: t\n --> f:1:2\n  |\n1 | aé\n  |  ^\n2 | \n  | ^\n3 | bc d\n" ++
        "  | ^^ here\n4 | e\n  |" := by
  have hshown : (sampleSpan.source.toList.all fun c => !isDropped c) = true := by decide +kernel
  have h : sampleSpan.MarksChars 1 6 :=
    ⟨by decide, by decide +kernel, by decide +kernel, by decide +kernel, by simpa using hshown⟩
  have hm : [sampleSpan] = [] ++ sampleSpan :: [] := rfl
  refine ⟨h, ?_⟩
  rw [(render_marksChars h (m := { title := [bare "t"], snippets := [sampleSpan] }) hm).1]
  decide +kernel

end HouseRules.Snippet
