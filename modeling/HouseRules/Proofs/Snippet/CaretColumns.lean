import HouseRules.Proofs.Snippet.Frame

/-! # Columns of carets

The carets of a row are one run of them, as nothing else in the row is a caret
(`getElem?_caretsRow_iff`). A snippet that marks a word in one line shows the line and below it a
row with one caret for each character of the word, behind as many blanks as characters of the line
stand before the word (`rows_of_word`). -/

namespace HouseRules.Snippet

open LineIndex Styled

/-- The row of line `n`. -/
def lineRow (n : Nat) (line : List Char) : List Char :=
  (Nat.repr n).toList ++ (" | ".toList ++ kept line)

/-- The row of carets below line `n`. -/
def caretsRow (label : String) (n blanks carets : Nat) : List Char :=
  List.replicate (Nat.repr n).length ' ' ++ (" | ".toList ++ (List.replicate blanks ' ' ++
    (List.replicate carets '^' ++ (' ' :: kept label.toList))))

/-- A row without a line. -/
def barRow (n : Nat) : List Char := List.replicate (Nat.repr n).length ' ' ++ " |".toList

/-- The width of a line number and of the bar behind it. -/
def margin (n : Nat) : Nat := (Nat.repr n).length + 3

theorem lineRows_eq (origin label : String) (n : Nat) (line : List Char) (blanks carets : Nat) :
    ∃ location, lineRows origin label n line blanks carets =
      [location, barRow n, lineRow n line, caretsRow label n blanks carets, barRow n] :=
  ⟨_, rfl⟩

theorem length_lineRow (n : Nat) (line : List Char) :
    (lineRow n line).length = margin n + (kept line).length := by
  have hbar : " | ".toList.length = 3 := by decide
  rw [lineRow, List.length_append, List.length_append, String.length_toList, hbar, margin]
  omega

theorem newline_not_mem_lineRow {line : List Char} (h : '\n' ∉ line) (n : Nat) :
    '\n' ∉ lineRow n line := by
  have hnumber := not_mem_repr (c := '\n') (by decide) n
  have hbar : '\n' ∉ " | ".toList := by decide
  simp only [lineRow, List.mem_append, hnumber, hbar, newline_not_mem_kept h, or_self,
    not_false_eq_true]

theorem not_mem_caretsRow {c : Char} (hc : c ∉ [' ', '|', '^']) {label : String}
    (h : c ∉ label.toList) (n blanks carets : Nat) : c ∉ caretsRow label n blanks carets := by
  simp only [List.mem_cons, List.not_mem_nil, or_false, not_or] at hc
  obtain ⟨hblank, hbar, hcaret⟩ := hc
  have hthree : c ∉ " | ".toList := by
    change c ∉ [' ', '|', ' ']
    simp [hblank, hbar]
  have hlabel : c ∉ kept label.toList := fun hmem => h (List.mem_of_mem_filter hmem)
  simp only [caretsRow, List.mem_append, List.mem_cons, not_mem_replicate hblank,
    not_mem_replicate hcaret, hthree, hblank, hlabel, or_self, not_false_eq_true]

/-! ### Runs -/

/-- Where a run of a character stands that stands nowhere else. -/
theorem getElem?_run_iff {c : Char} {front back : List Char} (hfront : c ∉ front)
    (hback : c ∉ back) (n j : Nat) : (front ++ (List.replicate n c ++ back))[j]? = some c ↔
      front.length ≤ j ∧ j < front.length + n := by
  rcases Nat.lt_or_ge j front.length with hj | hj
  · rw [List.getElem?_append_left hj]
    constructor
    · intro h
      exact absurd (List.mem_of_getElem? h) hfront
    · omega
  · rw [List.getElem?_append_right hj]
    rcases Nat.lt_or_ge (j - front.length) n with hn | hn
    · rw [List.getElem?_append_left (by rwa [List.length_replicate]),
        List.getElem?_replicate_of_lt hn]
      exact ⟨fun _ => ⟨hj, by omega⟩, fun _ => rfl⟩
    · rw [List.getElem?_append_right (by rwa [List.length_replicate])]
      constructor
      · intro h
        exact absurd (List.mem_of_getElem? h) hback
      · omega

theorem getElem?_caretsRow_iff {label : String} (h : '^' ∉ label.toList) (n blanks carets j : Nat) :
    (caretsRow label n blanks carets)[j]? = some '^' ↔
      margin n + blanks ≤ j ∧ j < margin n + blanks + carets := by
  have hbar : '^' ∉ " | ".toList := by decide
  have hblank := not_mem_replicate (c := '^') (d := ' ') (by decide)
  have hfront : '^' ∉ List.replicate (Nat.repr n).length ' ' ++
      (" | ".toList ++ List.replicate blanks ' ') := by
    simp only [List.mem_append, hbar, hblank, or_self, not_false_eq_true]
  have hback : '^' ∉ ' ' :: kept label.toList := by
    rw [List.mem_cons, not_or]
    exact ⟨by decide, fun hmem => h (List.mem_of_mem_filter hmem)⟩
  have hlen : (List.replicate (Nat.repr n).length ' ' ++
      (" | ".toList ++ List.replicate blanks ' ')).length = margin n + blanks := by
    have hthree : " | ".toList.length = 3 := by decide
    rw [List.length_append, List.length_append, List.length_replicate, List.length_replicate,
      hthree, margin]
    omega
  have hrun := getElem?_run_iff hfront hback carets j
  rw [hlen, List.append_assoc, List.append_assoc] at hrun
  exact hrun

/-! ### Words -/

theorem mem_of_mem_sourceLine {s : Snippet} {i : Nat} {c : Char} (h : c ∈ s.sourceLine i) :
    c ∈ s.source.toList := by
  unfold sourceLine at h
  cases hline : (textLines s.source.toList)[i]? with
  | none =>
    rw [hline] at h
    cases h
  | some l =>
    rw [hline, Option.getD_some] at h
    obtain ⟨rest, hsplit, -, -⟩ := exists_rest hline
    rw [hsplit]
    exact List.mem_append_right _ (List.mem_append_left _ h)

section Word

variable {s : Snippet} {pre word post : List Char}
  (hsource : s.source.toList = pre ++ (word ++ post))
  (hrange : s.range = ⟨((Utf8.encodeList pre).length : Int),
    ((Utf8.encodeList (pre ++ word)).length : Int)⟩)
  (hword : word ≠ []) (hline : '\n' ∉ word)

include hsource

theorem lineAt_word : s.lineAt pre.length = pre.count '\n' := by
  rw [lineAt, hsource, List.take_left]

include hline

theorem lineAt_behind_word : s.lineAt (pre ++ word).length = pre.count '\n' := by
  rw [lineAt, hsource, ← List.append_assoc, List.take_left, List.count_append,
    List.count_eq_zero.mpr hline, Nat.add_zero]

/-- The line of a word. -/
theorem exists_line_of_word : ∃ part rest,
    (textLines s.source.toList)[pre.count '\n']? = some (part ++ (word ++ rest)) ∧
      front (textLines s.source.toList) (pre.count '\n') ++ part = pre := by
  obtain ⟨part, tail, -, hpart⟩ := exists_part (word ++ post) pre
  obtain ⟨part', rest, hline', hpart'⟩ := exists_part post (pre ++ word)
  rw [List.count_append, List.count_eq_zero.mpr hline, Nat.add_zero, List.append_assoc,
    ← hsource] at hline' hpart'
  rw [← hsource] at hpart
  have hword : part' = part ++ word := by
    rw [← hpart, List.append_assoc] at hpart'
    rw [hpart] at hpart'
    exact List.append_cancel_left hpart'
  refine ⟨part, rest, ?_, hpart⟩
  rw [hline', hword, List.append_assoc]

include hrange hword

theorem marksChars_of_word (hshown : ∀ c ∈ s.source.toList, isDropped c = false) :
    s.MarksChars pre.length (pre ++ word).length where
  lt := by
    have := List.length_pos_iff.mpr hword
    rw [List.length_append]
    omega
  le := by
    simp only [hsource, List.length_append]
    omega
  range := by
    have htake : s.source.toList.take (pre ++ word).length = pre ++ word := by
      rw [hsource, ← List.append_assoc, List.take_left]
    rw [hrange, htake, hsource, List.take_left]
  last := by
    intro hlast
    have hpos := List.length_pos_iff.mpr hword
    rw [hsource, List.length_append, List.getElem?_append_right (by omega),
      List.getElem?_append_left (by omega)] at hlast
    exact hline (List.mem_of_getElem? hlast)
  shown := hshown

/-- **The rows of a snippet that marks a word.** -/
theorem rows_of_word (hshown : ∀ c ∈ s.source.toList, isDropped c = false) (hfold : s.fold = true)
    (hlabel : s.label ≠ "") : ∃ part rest,
      (textLines s.source.toList)[pre.count '\n']? = some (part ++ (word ++ rest)) ∧
      front (textLines s.source.toList) (pre.count '\n') ++ part = pre ∧
      s.rows.map StyledText.chars = lineRows s.origin s.label (pre.count '\n' + 1)
        (part ++ (word ++ rest)) part.length word.length := by
  obtain ⟨part, rest, hsplit, hfront⟩ := exists_line_of_word hsource hline
  refine ⟨part, rest, hsplit, hfront, ?_⟩
  have hpart : s.sourceLine (pre.count '\n') = part ++ (word ++ rest) := by
    rw [sourceLine, hsplit, Option.getD_some]
  have hmarks := marksChars_of_word hsource hrange hword hline hshown
  have hfirst := lineAt_word hsource
  have hlast := lineAt_behind_word hsource hline
  have hnumbers : s.shownNumbers pre.length (pre ++ word).length = [pre.count '\n'] := by
    rw [shownNumbers, if_pos hfold, hfirst, hlast, Nat.add_sub_cancel_left, List.range'_one]
  have hwidth : s.numberWidth pre.length (pre ++ word).length =
      (Nat.repr (pre.count '\n' + 1)).length := by
    rw [numberWidth, hnumbers]
    rfl
  have hlen := congrArg List.length hfront
  rw [List.length_append] at hlen
  have hstart : s.lineStart (pre.count '\n') = pre.length - part.length := by
    rw [lineStart]
    omega
  have hsize := congrArg List.length hpart
  rw [List.length_append, List.length_append] at hsize
  have hbefore : s.charsBefore pre.length (pre.count '\n') = part.length := by
    rw [charsBefore_eq, hstart]
    omega
  have hwithin : max 1 (s.charsWithin pre.length (pre ++ word).length (pre.count '\n')) =
      word.length := by
    have hpos := List.length_pos_iff.mpr hword
    rw [charsWithin_eq, hstart, List.length_append]
    omega
  have hkept : kept (part ++ (word ++ rest)) = part ++ (word ++ rest) := by
    rw [← hpart]
    refine List.filter_eq_self.mpr fun c hc => ?_
    rw [hshown c (mem_of_mem_sourceLine hc)]
    rfl
  rw [hmarks.rows_eq, rowsWithCarets, hnumbers, List.flatMap_singleton, lineWithCarets, hfirst,
    hlast, if_pos ⟨Nat.le_refl _, Nat.le_refl _⟩, caretsBelow, hwidth, hbefore, hwithin, hlast,
    if_pos ⟨rfl, hlabel⟩, hpart, Nat.sub_self, lineRows, hkept]
  rfl

end Word

end HouseRules.Snippet
