import HouseRules.Proofs.Snippet.Carets
import HouseRules.Proofs.Styled.Unescaped
import Mathlib.Data.List.Sort

/-! # The frame around a snippet

The marked bytes of a snippet may be any two integers: in the wrong order, negative, behind the
source or within a character. They lie in the lines from `markedFirst` to `markedLast`, and these
are lines of the source (`markedFirst_le`, `markedLast_lt`). A snippet shows them, or all lines if
it is not folded (`frameLines`), never none, and the last number shown is the widest
(`length_repr_mono`). So the bars of all rows stand in one column (`barred_of_mem_frame`). No row
has a line feed of its own, so the lines of a rendered message are its rows (`render_frame`). -/

namespace HouseRules

namespace Snippet

open Bytes LineIndex Styled

/-- The number of lines. -/
def lineCount (s : Snippet) : Nat := (textLines s.source.toList).length

/-- The line of the first marked byte: so many line feeds stand before it. -/
def markedFirst (s : Snippet) : Nat :=
  ((Utf8.encode s.source).take s.range.start.toNat).count newline

/-- The line of the last marked byte, or of the first one if there is none. -/
def markedLast (s : Snippet) : Nat :=
  ((Utf8.encode s.source).take (max s.range.start (s.range.stop - 1)).toNat).count newline

/-- The lines that are shown. -/
def frameLines (s : Snippet) : List Nat :=
  (List.range s.lineCount).filter fun i => !s.fold || (s.markedFirst ≤ i && i ≤ s.markedLast)

/-- The last line that is shown. -/
def frameLast (s : Snippet) : Nat := if s.fold then s.markedLast else s.lineCount - 1

/-- The width of the line numbers. -/
def gutter (s : Snippet) : Nat := (Nat.repr (s.frameLast + 1)).length

/-- The row in front of the frame, with `blanks` characters before the first marked one. -/
def locationLine (s : Snippet) (blanks : Nat) : List Char :=
  List.replicate s.gutter ' ' ++ ("--> ".toList ++ (kept s.origin.toList ++
    (':' :: (Nat.repr (s.markedFirst + 1)).toList ++ ':' :: (Nat.repr (blanks + 1)).toList)))

/-- A row with nothing but its bar. -/
def barLine (s : Snippet) : List Char := List.replicate s.gutter ' ' ++ " |".toList

/-- The row of line `i`. -/
def numberedLine (s : Snippet) (i : Nat) : List Char :=
  List.replicate (s.gutter - (Nat.repr (i + 1)).length) ' ' ++
    ((Nat.repr (i + 1)).toList ++ (" | ".toList ++ kept (s.sourceLine i)))

/-- The row of carets below line `i`. -/
def caretLine (s : Snippet) (i blanks carets : Nat) : List Char :=
  List.replicate s.gutter ' ' ++ (" | ".toList ++ (List.replicate blanks ' ' ++
    (List.replicate carets '^' ++
      if i = s.markedLast ∧ s.label ≠ "" then ' ' :: kept s.label.toList else [])))

/-- **The rows of the frame**, with `blanks i` blanks and `carets i` carets below line `i`. -/
def frame (s : Snippet) (blanks carets : Nat → Nat) : List (List Char) :=
  s.barLine :: s.frameLines.flatMap (fun i => s.numberedLine i ::
    if s.markedFirst ≤ i ∧ i ≤ s.markedLast then [s.caretLine i (blanks i) (carets i)] else []) ++
    [s.barLine]

/-- The number of carets below a line. -/
def Layout.carets (l : Layout) (line : Nat) : Nat := max (l.caretStop line - l.caretStart line) 1

variable {s : Snippet} {i : Nat}

/-! ### Lines -/

theorem lineCount_pos (s : Snippet) : 0 < s.lineCount :=
  List.length_pos_iff.mpr (Search.pieces_ne_nil '\n' s.source.toList)

theorem layout_first (s : Snippet) : s.layout.first = s.markedFirst :=
  lineOf_eq_count s.source s.range.start

theorem layout_last (s : Snippet) : s.layout.last = s.markedLast := by
  have hmax : (if s.range.start < s.range.stop then s.range.stop - 1 else s.range.start) =
      max s.range.start (s.range.stop - 1) := by
    split <;> omega
  have hlast : s.layout.last = (ofSource s.source).lineOf
    (if s.range.start < s.range.stop then s.range.stop - 1 else s.range.start) := rfl
  rw [hlast, hmax]
  exact lineOf_eq_count s.source _

theorem markedFirst_le (s : Snippet) : s.markedFirst ≤ s.markedLast := by
  have hle : s.range.start.toNat ≤ (max s.range.start (s.range.stop - 1)).toNat := by omega
  exact (List.take_sublist_take_left hle).count_le _

theorem markedLast_lt (s : Snippet) : s.markedLast < s.lineCount := by
  rw [← layout_last]
  exact lineOf_lt s.source _

theorem mem_frameLines : i ∈ s.frameLines ↔
    i < s.lineCount ∧ (s.fold = false ∨ s.markedFirst ≤ i ∧ i ≤ s.markedLast) := by
  simp [frameLines]

theorem le_frameLast (h : i ∈ s.frameLines) : i ≤ s.frameLast := by
  obtain ⟨hlt, hshown⟩ := mem_frameLines.mp h
  unfold frameLast
  rcases hshown with hfold | ⟨-, hle⟩
  · rw [hfold, if_neg Bool.false_ne_true]
    omega
  · split
    · exact hle
    · omega

theorem frameLines_eq (s : Snippet) : s.frameLines =
    if s.fold then List.range' s.markedFirst (s.markedLast + 1 - s.markedFirst)
    else List.range s.lineCount := by
  have hle := s.markedFirst_le
  have hlt := s.markedLast_lt
  -- Two increasing lists with the same numbers in them.
  refine List.Pairwise.eq_of_mem_iff (r := (· < ·)) (List.pairwise_lt_range.filter _) ?_ fun i => ?_
  · split
    · exact List.pairwise_lt_range' 1
    · exact List.pairwise_lt_range
  · rw [mem_frameLines]
    split
    · rename_i hfold
      simp only [List.mem_range'_1, hfold, Bool.true_eq_false, false_or]
      omega
    · rename_i hfold
      simp [hfold]

theorem layout_shown (s : Snippet) : s.layout.shown = s.frameLines := by
  rw [frameLines_eq, ← layout_first, ← layout_last, lineCount, ← size_ofSource]
  rfl

theorem getLast?_frameLines (s : Snippet) : s.frameLines.getLast? = some s.frameLast := by
  have hle := s.markedFirst_le
  have hpos := s.lineCount_pos
  rw [frameLines_eq, frameLast]
  split
  · have hnum : s.markedFirst + (s.markedLast + 1 - s.markedFirst) - 1 = s.markedLast := by omega
    rw [List.getLast?_range', if_neg (by omega), hnum]
  · rw [List.getLast?_range, if_neg (by omega)]

theorem layout_width (s : Snippet) : s.layout.width = s.gutter := by
  have hwidth : s.layout.width = (Nat.repr (s.layout.shown.getLastD 0 + 1)).length := rfl
  rw [hwidth, layout_shown, List.getLastD_eq_getLast?, getLast?_frameLines]
  rfl

/-- What the rows of the frame are. -/
theorem mem_frame {blanks carets : Nat → Nat} {row : List Char}
    (h : row ∈ s.frame blanks carets) : row = s.barLine ∨
      ∃ i ∈ s.frameLines, row = s.numberedLine i ∨ row = s.caretLine i (blanks i) (carets i) := by
  rw [frame, List.cons_append, List.mem_cons, List.mem_append, List.mem_singleton,
    List.mem_flatMap] at h
  rcases h with hbar | ⟨i, hi, hline⟩ | hbar
  · exact Or.inl hbar
  · rw [List.mem_cons] at hline
    rcases hline with hnumbered | hcarets
    · exact Or.inr ⟨i, hi, Or.inl hnumbered⟩
    · split at hcarets
      · exact Or.inr ⟨i, hi, Or.inr (List.mem_singleton.mp hcarets)⟩
      · cases hcarets
  · exact Or.inl hbar

/-! ### Bars -/

/-- The bar of a row stands behind a number, or the blanks in its place, and one blank. -/
def Barred (width : Nat) (row : List Char) : Prop :=
  ∃ number rest, number.length = width ∧ '|' ∉ number ∧ row = number ++ (" |".toList ++ rest)

theorem length_repr_mono {n k : Nat} (h : n ≤ k) : (Nat.repr n).length ≤ (Nat.repr k).length := by
  have hpos : 0 < (Nat.repr k).length := Nat.length_repr_pos
  have hlt : k < 10 ^ (Nat.repr k).length := (Nat.length_repr_le_iff hpos).mp (Nat.le_refl _)
  exact (Nat.length_repr_le_iff hpos).mpr (Nat.lt_of_le_of_lt h hlt)

theorem not_mem_replicate {c d : Char} (h : c ≠ d) (n : Nat) : c ∉ List.replicate n d :=
  fun hmem => h (List.eq_of_mem_replicate hmem)

theorem barred_pad (s : Snippet) (rest : List Char) :
    Barred s.gutter (List.replicate s.gutter ' ' ++ (" |".toList ++ rest)) :=
  ⟨_, rest, List.length_replicate, not_mem_replicate (by decide) _, rfl⟩

/-- No number that is shown is wider than the last. -/
theorem barred_numberedLine (h : i ∈ s.frameLines) : Barred s.gutter (s.numberedLine i) := by
  have hle := le_frameLast h
  have hwidth : (Nat.repr (i + 1)).length ≤ s.gutter := length_repr_mono (by omega)
  refine ⟨List.replicate (s.gutter - (Nat.repr (i + 1)).length) ' ' ++ (Nat.repr (i + 1)).toList,
    ' ' :: kept (s.sourceLine i), ?_, ?_, ?_⟩
  · rw [List.length_append, List.length_replicate, String.length_toList]
    omega
  · rw [List.mem_append, not_or]
    exact ⟨not_mem_replicate (by decide) _, not_mem_repr (by decide) _⟩
  · rw [numberedLine, List.append_assoc]
    rfl

/-- **The bars of the frame stand in one column.** -/
theorem barred_of_mem_frame {blanks carets : Nat → Nat} {row : List Char}
    (h : row ∈ s.frame blanks carets) : Barred s.gutter row := by
  rcases mem_frame h with rfl | ⟨i, hi, rfl | rfl⟩
  · exact s.barred_pad []
  · exact barred_numberedLine hi
  · exact s.barred_pad _

/-! ### Rows -/

theorem chars_sourceRow (hi : i < s.lineCount) :
    StyledText.chars (s.layout.sourceRow i) = s.numberedLine i := by
  have hkept : kept (s.layout.index.lineText i).toList = kept (s.sourceLine i) :=
    kept_lineText (getElem?_textLines hi)
  rw [Layout.chars_sourceRow, hkept, layout_width]
  rfl

theorem chars_rows (hi : i < s.lineCount) : (s.layout.rows s.label i).map StyledText.chars =
    s.numberedLine i :: if s.markedFirst ≤ i ∧ i ≤ s.markedLast then
      [s.caretLine i (s.layout.caretStart i) (s.layout.carets i)] else [] := by
  have hmarks : s.layout.marks i = true ↔ s.markedFirst ≤ i ∧ i ≤ s.markedLast := by
    rw [Layout.marks, layout_first, layout_last, Bool.and_eq_true, decide_eq_true_eq,
      decide_eq_true_eq]
  have hcarets : StyledText.chars (s.layout.caretRow s.label i) =
      s.caretLine i (s.layout.caretStart i) (s.layout.carets i) := by
    rw [Layout.chars_caretRow, layout_width, layout_last]
    rfl
  rw [Layout.rows]
  by_cases hmarked : s.markedFirst ≤ i ∧ i ≤ s.markedLast
  · rw [if_pos (hmarks.mpr hmarked), if_pos hmarked, List.map_cons, List.map_singleton,
      chars_sourceRow hi, hcarets]
  · rw [if_neg fun hm => hmarked (hmarks.mp hm), if_neg hmarked, List.map_singleton,
      chars_sourceRow hi]

/-- **The rows of a snippet** are where it is and its frame. -/
theorem map_chars_rows (s : Snippet) : s.rows.map StyledText.chars =
    s.locationLine (s.layout.caretStart s.markedFirst) ::
      s.frame s.layout.caretStart s.layout.carets := by
  have hlocation : StyledText.chars (s.layout.locationRow s.origin) =
      s.locationLine (s.layout.caretStart s.markedFirst) := by
    have hcolumn : s.layout.caretStart s.markedFirst =
        s.layout.index.columnOf s.layout.range.start := by
      rw [Layout.caretStart, layout_first, if_pos rfl]
    rw [Layout.chars_locationRow, layout_width, layout_first, ← hcolumn]
    rfl
  have hbar : StyledText.chars s.layout.barRow = s.barLine := by
    rw [Layout.chars_barRow, layout_width]
    rfl
  have hlines : (s.layout.shown.flatMap (s.layout.rows s.label)).map StyledText.chars =
      s.frameLines.flatMap fun i => s.numberedLine i ::
        if s.markedFirst ≤ i ∧ i ≤ s.markedLast then
          [s.caretLine i (s.layout.caretStart i) (s.layout.carets i)] else [] := by
    rw [layout_shown, List.map_flatMap]
    exact List.flatMap_congr fun i hi => chars_rows (mem_frameLines.mp hi).1
  rw [rows, List.map_append, List.map_append, hlines, List.map_cons, List.map_singleton,
    hlocation, hbar]
  rfl

/-! ### Line feeds -/

theorem newline_not_mem_kept {cs : List Char} (h : '\n' ∉ cs) : '\n' ∉ kept cs :=
  fun hmem => h (List.mem_of_mem_filter hmem)

theorem newline_not_mem_sourceLine (s : Snippet) (i : Nat) : '\n' ∉ s.sourceLine i := by
  unfold sourceLine
  cases hline : (textLines s.source.toList)[i]? with
  | none => exact List.not_mem_nil
  | some l =>
    obtain ⟨-, -, hfree, -⟩ := exists_rest hline
    exact hfree

theorem newline_not_mem_locationLine (h : '\n' ∉ s.origin.toList) (blanks : Nat) :
    '\n' ∉ s.locationLine blanks := by
  have hpad := not_mem_replicate (c := '\n') (d := ' ') (by decide) s.gutter
  have harrow : '\n' ∉ "--> ".toList := by decide
  have hnumber := not_mem_repr (c := '\n') (by decide)
  have horigin := newline_not_mem_kept h
  have hcolon : '\n' ≠ ':' := by decide
  simp only [locationLine, List.mem_append, List.mem_cons, hpad, harrow, horigin, hnumber, hcolon,
    or_self, not_false_eq_true]

theorem newline_not_mem_frame (h : '\n' ∉ s.label.toList) {blanks carets : Nat → Nat}
    {row : List Char} (hrow : row ∈ s.frame blanks carets) : '\n' ∉ row := by
  have hpad := not_mem_replicate (c := '\n') (d := ' ') (by decide)
  have hcarets := not_mem_replicate (c := '\n') (d := '^') (by decide)
  have hnumber := not_mem_repr (c := '\n') (by decide)
  have hbar : '\n' ∉ " |".toList := by decide
  have hbar' : '\n' ∉ " | ".toList := by decide
  rcases mem_frame hrow with rfl | ⟨i, -, rfl | rfl⟩
  · simp only [barLine, List.mem_append, hpad, hbar, or_self, not_false_eq_true]
  · have hsource := newline_not_mem_kept (s.newline_not_mem_sourceLine i)
    simp only [numberedLine, List.mem_append, hpad, hnumber, hbar', hsource, or_self,
      not_false_eq_true]
  · have hlabel : '\n' ∉
        if i = s.markedLast ∧ s.label ≠ "" then ' ' :: kept s.label.toList else [] := by
      split
      · rw [List.mem_cons, not_or]
        exact ⟨by decide, newline_not_mem_kept h⟩
      · exact List.not_mem_nil
    simp only [caretLine, List.mem_append, hpad, hcarets, hbar', hlabel, or_self,
      not_false_eq_true]

end Snippet

/-! ### Messages -/

namespace Message

open Styled

/-- The parts of a message that come from elsewhere hold no line feed, the sources apart. -/
structure LineFree (m : Message) : Prop where
  title : '\n' ∉ m.title.chars
  help : ∀ text, m.help = some text → '\n' ∉ text.chars
  origin : ∀ s ∈ m.snippets, '\n' ∉ s.origin.toList
  label : ∀ s ∈ m.snippets, '\n' ∉ s.label.toList

/-- The row of help, behind as many blanks as the frame before it has. -/
def helpLine (m : Message) (text : StyledText) : List Char :=
  List.replicate ((m.snippets.getLast?.map Snippet.gutter).getD 0) ' ' ++
    (" = help: ".toList ++ text.chars)

theorem chars_titleRow (m : Message) :
    m.titleRow.chars = "error: ".toList ++ m.title.chars := by
  rw [titleRow, StyledText.chars_append]
  rfl

theorem chars_helpRow_pad (m : Message) (text : StyledText) :
    StyledText.chars (helpRow ((m.snippets.getLast?.map Snippet.pad).getD "") text) =
      m.helpLine text := by
  rw [chars_helpRow, helpLine]
  cases m.snippets.getLast? with
  | none => rfl
  | some s =>
    have hpad : kept s.pad.toList = List.replicate s.gutter ' ' := by
      rw [Snippet.pad, Snippet.Layout.kept_pad, Snippet.layout_width]
    rw [Option.map_some, Option.map_some, Option.getD_some, Option.getD_some, hpad]

theorem map_chars_rows (m : Message) : m.rows.map StyledText.chars =
    ("error: ".toList ++ m.title.chars) :: m.snippets.flatMap (fun s =>
      s.locationLine (s.layout.caretStart s.markedFirst) ::
        s.frame s.layout.caretStart s.layout.carets) ++ (m.help.map m.helpLine).toList := by
  have hsnippets : (m.snippets.flatMap Snippet.rows).map StyledText.chars =
      m.snippets.flatMap fun s => s.locationLine (s.layout.caretStart s.markedFirst) ::
        s.frame s.layout.caretStart s.layout.carets := by
    rw [List.map_flatMap]
    exact List.flatMap_congr fun s _ => s.map_chars_rows
  have hhelp : (m.help.map (helpRow ((m.snippets.getLast?.map Snippet.pad).getD ""))).toList.map
      StyledText.chars = (m.help.map m.helpLine).toList := by
    cases m.help with
    | none => rfl
    | some text => exact congrArg (fun row => [row]) (m.chars_helpRow_pad text)
  rw [rows, List.map_append, List.map_cons, hsnippets, hhelp, chars_titleRow]

theorem LineFree.newline_not_mem {m : Message} (h : m.LineFree) {row : List Char}
    (hrow : row ∈ m.rows.map StyledText.chars) : '\n' ∉ row := by
  rw [map_chars_rows, List.cons_append, List.mem_cons, List.mem_append, List.mem_flatMap] at hrow
  rcases hrow with rfl | ⟨s, hs, hrow⟩ | hrow
  · rw [List.mem_append, not_or]
    exact ⟨by decide, h.title⟩
  · rw [List.mem_cons] at hrow
    rcases hrow with rfl | hrow
    · exact Snippet.newline_not_mem_locationLine (h.origin s hs) _
    · exact Snippet.newline_not_mem_frame (h.label s hs) hrow
  · rw [Option.mem_toList, Option.map_eq_some_iff] at hrow
    obtain ⟨text, htext, rfl⟩ := hrow
    have hpad := Snippet.not_mem_replicate (c := '\n') (d := ' ') (by decide)
    have hmark : '\n' ∉ " = help: ".toList := by decide
    simp only [helpLine, List.mem_append, hpad, hmark, h.help text htext, or_self,
      not_false_eq_true]

/-- **The frame of each snippet is straight**, whatever bytes are marked. The lines of a rendered
message are its title, for each snippet where it is and its frame, and the help. A frame shows the
marked lines of its snippet, or all lines, with a row of carets below each marked line and below no
other; the bars of its rows stand in one column. The lines that are looked up exist. -/
theorem render_frame {m : Message} (h : m.LineFree) :
    (∃ blanks carets : Snippet → Nat → Nat, (∀ s i, 1 ≤ carets s i) ∧
      Search.pieces '\n' (Rendering.plain.render m).toList =
        ("error: ".toList ++ m.title.chars) :: m.snippets.flatMap (fun s =>
          s.locationLine (blanks s s.markedFirst) :: s.frame (blanks s) (carets s)) ++
          (m.help.map m.helpLine).toList ∧
      ∀ s ∈ m.snippets, ∀ row ∈ s.frame (blanks s) (carets s), Snippet.Barred s.gutter row) ∧
    ∀ s ∈ m.snippets, s.layout.first ≤ s.layout.last ∧ s.layout.last < s.layout.index.size ∧
      (∀ i ∈ s.layout.shown, i < s.layout.index.size) ∧
      s.layout.first = s.markedFirst ∧ s.layout.last = s.markedLast ∧
      s.layout.index.size = s.lineCount ∧ s.layout.shown = s.frameLines ∧
      s.layout.shown.getLast? = some s.frameLast := by
  refine ⟨⟨fun s => s.layout.caretStart, fun s => s.layout.carets,
    fun s i => Nat.le_max_right _ 1, ?_, fun s _ row hrow => Snippet.barred_of_mem_frame hrow⟩,
    fun s _ => ?_⟩
  · have hne : m.rows.map StyledText.chars ≠ [] := by
      rw [map_chars_rows]
      simp
    have hpieces := Search.pieces_join hne fun row hrow => h.newline_not_mem hrow
    rw [Rendering.render, StyledText.plain, text, StyledText.chars_join, String.toList_ofList,
      hpieces, map_chars_rows]
  · have hsize : s.layout.index.size = s.lineCount := LineIndex.size_ofSource s.source
    rw [hsize, Snippet.layout_shown, Snippet.layout_first, Snippet.layout_last]
    have hshown : ∀ i ∈ s.frameLines, i < s.lineCount := fun i hi =>
      (Snippet.mem_frameLines.mp hi).1
    exact ⟨s.markedFirst_le, s.markedLast_lt, hshown, rfl, rfl, rfl, rfl, s.getLast?_frameLines⟩

/-- A message with ten lines of source, of which all are shown; the marked bytes end before they
start. -/
def reversedSpan : Message where
  title := [bare "t"]
  snippets := [{ source := "é\n\nc\nd\ne\nf\ng\nh\ni\r\n", origin := "f", range := ⟨6, -3⟩
                 label := "here", fold := false }]
  help := some [bare "h"]

theorem render_frame_reversed : reversedSpan.LineFree ∧ ∃ location frame,
    Search.pieces '\n' (Rendering.plain.render reversedSpan).toList =
      "error: t".toList :: location :: frame ++ ["   = help: h".toList] ∧
    frame.length = 13 ∧ ∀ row ∈ frame, Snippet.Barred 2 row := by
  have h : reversedSpan.LineFree :=
    ⟨by decide, fun text htext => by cases htext; decide, by simp [reversedSpan],
      by simp [reversedSpan]⟩
  obtain ⟨⟨blanks, carets, -, hlines, hbars⟩, -⟩ := render_frame h
  exact ⟨h, _, _, hlines, rfl, hbars _ (List.mem_singleton_self _)⟩

end Message

end HouseRules
