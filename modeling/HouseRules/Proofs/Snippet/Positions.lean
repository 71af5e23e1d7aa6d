import HouseRules.Proofs.Snippet.Carets
import HouseRules.Proofs.Styled.Unescaped
import HouseRules.Proofs.Text.Boundary

/-! # Lines and columns of offsets

The line of an offset is the number of line feeds before it, and its column is the number of
characters of that line that start before it (`startedChars`). An offset between two characters is
at the end of a part of the source, for which lines and columns are known; one that cuts a character
has the cut character in addition, which is read as one fault (`columnOf_cut`). In both cases the
characters that start before the offset are an interval: from the start of the line up to the
offset (`startedChars_eq`).

So offsets between characters have different positions, in the order of the offsets
(`columnOf_lt`), and the texts of the lines make up the source (`intercalate_lineText`). -/

namespace HouseRules.LineIndex

open Bytes Utf8

/-- How many characters of line `k`, those with `k` line feeds before them, start before the
offset. -/
def startedChars (cs : List Char) (k o : Nat) : Nat :=
  (List.range cs.length).countP fun i => (cs.take i).count '\n' = k ∧ charOffset cs i < o

/-! ### Characters of a line -/

theorem count_front {cs l : List Char} {k : Nat} (h : (textLines cs)[k]? = some l) :
    (front (textLines cs) k).count '\n' = k := by
  induction k generalizing l with
  | zero => rfl
  | succ k ih =>
    have hk : k < (textLines cs).length := Nat.lt_of_succ_lt (List.getElem?_eq_some_iff.mp h).1
    have hline := List.getElem?_eq_getElem hk
    obtain ⟨-, -, hfree, -⟩ := exists_rest hline
    rw [front_succ hline, List.count_append, List.count_append, ih hline,
      List.count_eq_zero.mpr hfree]
    rfl

/-- A character stands before a line if and only if fewer line feeds stand before it. -/
theorem count_take_lt_iff {cs l : List Char} {k : Nat} (h : (textLines cs)[k]? = some l) (i : Nat) :
    (cs.take i).count '\n' < k ↔ i < (front (textLines cs) k).length := by
  obtain ⟨rest, hsplit, -, -⟩ := exists_rest h
  have hcount := count_front h
  constructor
  · intro hlt
    by_contra hge
    have hpart : front (textLines cs) k <+: cs.take i :=
      List.prefix_take_iff.mpr ⟨⟨_, hsplit.symm⟩, by omega⟩
    have := hpart.sublist.count_le '\n'
    omega
  · intro hlt
    cases k with
    | zero => simp [front] at hlt
    | succ k =>
      have hk : k < (textLines cs).length := Nat.lt_of_succ_lt (List.getElem?_eq_some_iff.mp h).1
      have hline := List.getElem?_eq_getElem hk
      obtain ⟨rest', hsplit', hfree, -⟩ := exists_rest hline
      have hlen := congrArg List.length (front_succ hline)
      simp only [List.length_append, List.length_singleton] at hlen
      have htake : cs.take i = (front (textLines cs) k ++ (textLines cs)[k]).take i := by
        conv_lhs => rw [hsplit', ← List.append_assoc]
        rw [List.take_append_of_le_length (by rw [List.length_append]; omega)]
      have hle : (cs.take i).count '\n' ≤
          (front (textLines cs) k ++ (textLines cs)[k]).count '\n' := by
        rw [htake]
        exact (List.take_sublist _ _).count_le '\n'
      rw [List.count_append, count_front hline, List.count_eq_zero.mpr hfree] at hle
      omega

theorem front_length_le {source : String} {pre post : List Char} (h : source.toList = pre ++ post) :
    (front (textLines source.toList) (pre.count '\n')).length ≤ pre.length := by
  obtain ⟨part, tail, -, hpart⟩ := exists_part post pre
  have hlen := congrArg List.length hpart
  rw [← h, List.length_append] at hlen
  omega

/-- **The characters that start before an offset**, up to character `a` of the source, in the line
behind the part `pre`. -/
theorem startedChars_eq {source : String} {pre post : List Char} {a o : Nat}
    (h : source.toList = pre ++ post) (ha : a ≤ pre.length + 1) (ha' : a ≤ source.toList.length)
    (ho : ∀ i < source.toList.length, charOffset source.toList i < o ↔ i < a) :
    startedChars source.toList (pre.count '\n') o =
      a - (front (textLines source.toList) (pre.count '\n')).length := by
  obtain ⟨part, tail, hline, -⟩ := exists_part post pre
  rw [← h] at hline
  have hrange := Snippet.countP_range source.toList.length
    (front (textLines source.toList) (pre.count '\n')).length a
  rw [Nat.min_eq_right ha'] at hrange
  rw [startedChars, ← hrange]
  refine List.countP_congr fun i hi => ?_
  rw [List.mem_range] at hi
  simp only [decide_eq_true_eq]
  rw [ho i hi]
  have hbefore := count_take_lt_iff hline i
  -- up to the part's end no character has more line feeds before it than the part holds
  have hmost : i < a → (source.toList.take i).count '\n' ≤ pre.count '\n' := by
    intro hia
    have htake : source.toList.take i = pre.take i := by
      rw [h, List.take_append_of_le_length (by omega)]
    rw [htake]
    exact (List.take_sublist _ _).count_le '\n'
  constructor
  · rintro ⟨hcount, hia⟩
    exact ⟨by omega, hia⟩
  · rintro ⟨hstart, hia⟩
    have := hmost hia
    exact ⟨by omega, hia⟩

/-! ### Offsets between characters -/

theorem columnOf_boundary {source : String} {pre post : List Char}
    (h : source.toList = pre ++ post) :
    (ofSource source).columnOf ((encodeList pre).length : Int) =
      startedChars source.toList (pre.count '\n') (encodeList pre).length := by
  have hlen := congrArg List.length h
  rw [List.length_append] at hlen
  have hoffset : (encodeList pre).length = charOffset source.toList pre.length := by
    rw [charOffset, h, List.take_left]
  rw [columnOf_part h, startedChars_eq h (Nat.le_succ _) (by omega)]
  intro i hi
  rw [hoffset, charOffset_lt_iff (by omega) (by omega)]

/-! ### Offsets in a character -/

section Cut

variable {source : String} {pre post : List Char} {c : Char} {n : Nat}
  (h : source.toList = pre ++ c :: post) (hpos : 0 < n)
  (hlt : n < (String.utf8EncodeChar c).length)

include h hpos hlt

theorem lineOf_cut :
    (ofSource source).lineOf (((encodeList pre).length + n : Nat) : Int) = pre.count '\n' := by
  -- a line feed is too short to be cut
  have hc : c ≠ '\n' := by
    rintro rfl
    rw [encodeChar_newline, List.length_singleton] at hlt
    omega
  have hnone : newline ∉ (String.utf8EncodeChar c).take n := fun hm =>
    newline_not_mem_encodeChar hc (List.mem_of_mem_take hm)
  rw [lineOf_eq, encode, h, encodeList_append, List.take_length_add_append, encodeList_cons,
    List.take_append_of_le_length hlt.le, List.count_append, List.count_eq_zero.mpr hnone,
    count_newline_encodeList, Nat.add_zero]

theorem charsBetween_cut :
    (ofSource source).charsBetween ((ofSource source).startOf (pre.count '\n') : Int)
        (((encodeList pre).length + n : Nat) : Int) =
      pre.length + 1 - (front (textLines source.toList) (pre.count '\n')).length := by
  obtain ⟨part, tail, hline, hpart⟩ := exists_part (c :: post) pre
  rw [← h] at hline hpart
  have hbytes : (ofSource source).bytes = encodeList pre ++ encodeList (c :: post) := by
    rw [← encodeList_append, ← h]
    rfl
  have hpre : encodeList pre =
      encodeList (front (textLines source.toList) (pre.count '\n')) ++ encodeList part := by
    rw [← encodeList_append, hpart]
  have hslice : (ofSource source).bytes.slice ((ofSource source).startOf (pre.count '\n') : Int)
      (((encodeList pre).length + n : Nat) : Int) =
        encodeList part ++ (String.utf8EncodeChar c).take n := by
    rw [startOf_eq hline, slice_natCast, hbytes, List.take_length_add_append, encodeList_cons,
      List.take_append_of_le_length hlt.le]
    conv_lhs => rw [hpre, List.append_assoc, List.drop_left]
  have hlen := congrArg List.length hpart
  rw [List.length_append] at hlen
  obtain ⟨x, reason, hitems⟩ := items_take_encodeChar hpos hlt
  rw [charsBetween, hslice, items_encodeList_append, hitems, List.length_append, List.length_map,
    List.length_singleton]
  omega

theorem columnOf_cut :
    (ofSource source).columnOf (((encodeList pre).length + n : Nat) : Int) =
      startedChars source.toList (pre.count '\n') ((encodeList pre).length + n) := by
  have hlen := congrArg List.length h
  rw [List.length_append, List.length_cons] at hlen
  have hstart : charOffset source.toList pre.length = (encodeList pre).length := by
    rw [charOffset, h, List.take_left]
  have hnext : charOffset source.toList (pre.length + 1) =
      (encodeList pre).length + (String.utf8EncodeChar c).length := by
    rw [charOffset, h, List.take_length_add_append, List.take_succ_cons, List.take_zero,
      encodeList_append, List.length_append, encodeList_cons, encodeList_nil, List.append_nil]
  rw [columnOf, lineOf_cut h hpos hlt, charsBetween_cut h hpos hlt,
    startedChars_eq h (Nat.le_refl _) (by omega)]
  intro i hi
  constructor
  · intro hoffset
    have : charOffset source.toList i < charOffset source.toList (pre.length + 1) := by omega
    rwa [charOffset_lt_iff (by omega) (by omega)] at this
  · intro hi
    rcases Nat.lt_or_ge i pre.length with hbefore | hat
    · have := charOffset_lt hbefore (by omega : pre.length ≤ source.toList.length)
      omega
    · have heq : i = pre.length := by omega
      rw [heq]
      omega

end Cut

/-! ### Positions -/

theorem columnOf_eq {source : String} {o : Nat} (ho : o ≤ (encode source).length) :
    (ofSource source).columnOf (o : Int) =
      startedChars source.toList ((ofSource source).lineOf (o : Int)) o := by
  rcases exists_cut ho with ⟨pre, post, h, rfl⟩ | ⟨pre, c, post, n, h, hpos, hlt, rfl⟩
  · rw [lineOf_part h]
    exact columnOf_boundary h
  · rw [lineOf_cut h hpos hlt]
    exact columnOf_cut h hpos hlt

theorem startOf_lineOf_le (source : String) (o : Nat) :
    (ofSource source).startOf ((ofSource source).lineOf (o : Int)) ≤ o := by
  have hlen := length_takeWhile_lineStarts (encode source) o
  have hsplit := List.takeWhile_append_dropWhile (l := lineStarts (encode source))
    (p := fun (s : Nat) => decide ((s : Int) ≤ (o : Int)))
  have hle : ∀ s ∈ (lineStarts (encode source)).takeWhile fun (s : Nat) => (s : Int) ≤ (o : Int),
      s ≤ o := by
    intro s hs
    have := List.all_eq_true.mp List.all_takeWhile s hs
    simpa using this
  rw [lineOf_eq, startOf]
  change (lineStarts (encode source))[_]?.getD 0 ≤ o
  rw [← hsplit, List.getElem?_append_left (by omega), List.getElem?_eq_getElem (by omega)]
  exact hle _ (List.getElem_mem _)

theorem widthUntil_lineOf (source : String) (o : Nat) :
    (ofSource source).widthUntil ((ofSource source).lineOf (o : Int)) (o : Int) =
      (ofSource source).columnOf (o : Int) := by
  have hle := startOf_lineOf_le source o
  have hmax : max (o : Int) ((ofSource source).startOf ((ofSource source).lineOf (o : Int)) : Int) =
      (o : Int) := by omega
  rw [widthUntil, hmax, columnOf]

/-- **Positions of characters** are in the order of the characters. -/
theorem columnOf_lt {source : String} {i j : Nat} (hij : i < j) (hj : j ≤ source.toList.length) :
    (ofSource source).lineOf (charOffset source.toList i : Int) <
        (ofSource source).lineOf (charOffset source.toList j : Int) ∨
      (ofSource source).lineOf (charOffset source.toList i : Int) =
          (ofSource source).lineOf (charOffset source.toList j : Int) ∧
        (ofSource source).columnOf (charOffset source.toList i : Int) <
          (ofSource source).columnOf (charOffset source.toList j : Int) := by
  have hi := (List.take_append_drop i source.toList).symm
  have hj' := (List.take_append_drop j source.toList).symm
  have hcount : (source.toList.take i).count '\n' ≤ (source.toList.take j).count '\n' :=
    (List.take_sublist_take_left hij.le).count_le _
  have hstart := front_length_le hi
  have hleni : (source.toList.take i).length = i := List.length_take_of_le (by omega)
  have hlenj : (source.toList.take j).length = j := List.length_take_of_le hj
  unfold charOffset
  rw [lineOf_part hi, lineOf_part hj', columnOf_part hi, columnOf_part hj', hleni, hlenj]
  rcases Nat.lt_or_ge ((source.toList.take i).count '\n') ((source.toList.take j).count '\n')
    with hlt | hge
  · exact Or.inl hlt
  · have heq : (source.toList.take i).count '\n' = (source.toList.take j).count '\n' := by omega
    refine Or.inr ⟨heq, ?_⟩
    rw [← heq]
    omega

/-! ### Lines -/

theorem length_textLines (cs : List Char) : (textLines cs).length = cs.count '\n' + 1 := by
  induction cs with
  | nil => rfl
  | cons c cs ih =>
    by_cases hc : c = '\n'
    · rw [hc, textLines, Search.pieces_sep_cons, List.length_cons, List.count_cons_self]
      exact congrArg (· + 1) ih
    · obtain ⟨p, ps, hp, hcut⟩ := Search.pieces_cons_of_ne hc cs
      rw [textLines, hp] at ih
      rw [textLines, hcut, List.count_cons_of_ne hc, ← ih]
      rfl

theorem map_lineText {source : String} (h : '\r' ∉ source.toList) :
    (List.range (ofSource source).size).map (ofSource source).lineText =
      (textLines source.toList).map String.ofList := by
  rw [size_ofSource]
  refine List.ext_getElem (by simp) fun k hk _ => ?_
  rw [List.length_map, List.length_range] at hk
  rw [List.getElem_map, List.getElem_range, List.getElem_map]
  exact lineText_eq (List.getElem?_eq_getElem hk) h

/-- **The texts of the lines make up the source.** -/
theorem intercalate_lineText {source : String} (h : '\r' ∉ source.toList) :
    "\n".intercalate ((List.range (ofSource source).size).map (ofSource source).lineText) =
      source := by
  have hlines : ((textLines source.toList).map String.ofList).map String.toList =
      textLines source.toList := by
    rw [List.map_map]
    simp
  apply String.toList_injective
  rw [map_lineText h, String.toList_intercalate, hlines, Search.intercalate_eq_join]
  exact Search.join_pieces '\n' source.toList

/-- **An index finds lines and columns faithfully.** The line of an offset is the number of line
feeds before it; its column is the number of characters of that line that start before it, also
within a character, and the width up to it. Offsets between characters have positions in their
order, so different ones. There is one line more than line feeds, and without carriage returns the
texts of the lines make up the source. -/
theorem ofSource_positions (source : String) :
    (∀ o ≤ (encode source).length,
      (ofSource source).lineOf (o : Int) = ((encode source).take o).count newline ∧
      (ofSource source).columnOf (o : Int) =
        startedChars source.toList ((ofSource source).lineOf (o : Int)) o ∧
      (ofSource source).widthUntil ((ofSource source).lineOf (o : Int)) (o : Int) =
        (ofSource source).columnOf (o : Int)) ∧
    (∀ o o', IsBoundary (encode source) o → IsBoundary (encode source) o' →
      (o < o' → (ofSource source).lineOf (o : Int) < (ofSource source).lineOf (o' : Int) ∨
        (ofSource source).lineOf (o : Int) = (ofSource source).lineOf (o' : Int) ∧
          (ofSource source).columnOf (o : Int) < (ofSource source).columnOf (o' : Int)) ∧
      ((ofSource source).lineOf (o : Int) = (ofSource source).lineOf (o' : Int) →
        (ofSource source).columnOf (o : Int) = (ofSource source).columnOf (o' : Int) → o = o')) ∧
    (ofSource source).size = source.toList.count '\n' + 1 ∧
    ('\r' ∉ source.toList →
      "\n".intercalate ((List.range (ofSource source).size).map (ofSource source).lineText) =
        source) := by
  have hincreasing : ∀ o o', IsBoundary (encode source) o → IsBoundary (encode source) o' →
      o < o' → (ofSource source).lineOf (o : Int) < (ofSource source).lineOf (o' : Int) ∨
        (ofSource source).lineOf (o : Int) = (ofSource source).lineOf (o' : Int) ∧
          (ofSource source).columnOf (o : Int) < (ofSource source).columnOf (o' : Int) := by
    intro o o' ho ho' hlt
    obtain ⟨i, hi, rfl⟩ := isBoundary_encodeList_iff.mp ho
    obtain ⟨j, hj, rfl⟩ := isBoundary_encodeList_iff.mp ho'
    exact columnOf_lt ((charOffset_lt_iff hi hj).mp hlt) hj
  refine ⟨fun o ho => ⟨lineOf_eq source o, columnOf_eq ho, widthUntil_lineOf source o⟩,
    fun o o' ho ho' => ⟨hincreasing o o' ho ho', fun hline hcolumn => ?_⟩, ?_, intercalate_lineText⟩
  · rcases Nat.lt_trichotomy o o' with hlt | heq | hgt
    · have := hincreasing o o' ho ho' hlt
      omega
    · exact heq
    · have := hincreasing o' o ho' ho hgt
      omega
  · rw [size_ofSource, length_textLines]

/-- An offset that cuts a character of three bytes, behind a character and a line feed. -/
theorem ofSource_positions_cut :
    let x := ofSource "é\na€b"
    5 ≤ (encode "é\na€b").length ∧ ¬ IsBoundary (encode "é\na€b") 5 ∧
      x.lineOf 5 = 1 ∧ x.columnOf 5 = 2 ∧ x.widthUntil 1 5 = 2 ∧
      "\n".intercalate ((List.range x.size).map x.lineText) = "é\na€b" := by
  intro x
  have hle : 5 ≤ (encode "é\na€b").length := by decide
  obtain ⟨hpositions, -, -, hlines⟩ := ofSource_positions "é\na€b"
  obtain ⟨hline, hcolumn, hwidth⟩ := hpositions 5 hle
  have hone : x.lineOf 5 = 1 := hline.trans (by decide)
  have htwo : x.columnOf 5 = 2 := by
    refine hcolumn.trans ?_
    decide
  have hcut : ¬ IsBoundary (encodeList "é\na€b".toList) 5 := by
    rw [isBoundary_encodeList_iff]
    decide
  have hsame : x.widthUntil 1 5 = x.columnOf 5 := by
    rw [← hone]
    exact hwidth
  exact ⟨hle, hcut, hone, htwo, hsame.trans htwo, hlines (by decide)⟩

end HouseRules.LineIndex
