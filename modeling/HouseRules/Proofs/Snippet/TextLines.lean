import HouseRules.Proofs.Snippet.OneLine

/-! # The index of a source, by its characters

The index of a source counts bytes. Here its lines are cut from the characters
(`LineIndex.textLines`), and `front` is what stands before a line. The two agree: line `k` starts
behind the encoding of what stands before it (`startOf_eq`). A part that starts the source ends in
the line with as many line feeds before it as the part holds (`exists_part`), so the offset behind
it lies in this line (`lineOf_part`), in the column that is left of it there (`columnOf_part`). Any
offset lies in a line of the source (`lineOf_lt`). -/

namespace HouseRules

open Bytes

namespace LineIndex

/-- The lines of a text without their line feeds, at least one. -/
def textLines (cs : List Char) : List (List Char) := Search.pieces '\n' cs

/-- What stands before line `k`. -/
def front (ls : List (List Char)) (k : Nat) : List Char := (ls.take k).flatMap (· ++ ['\n'])

/-! ### What stands before a line -/

theorem front_cons_succ (l : List Char) (ls : List (List Char)) (k : Nat) :
    front (l :: ls) (k + 1) = l ++ '\n' :: front ls k := by
  rw [front, List.take_succ_cons, List.flatMap_cons, List.append_assoc]
  rfl

theorem front_succ {ls : List (List Char)} {k : Nat} {l : List Char} (h : ls[k]? = some l) :
    front ls (k + 1) = front ls k ++ (l ++ ['\n']) := by
  rw [front, List.take_add_one, h, List.flatMap_append]
  simp [front]

theorem length_front_mono (ls : List (List Char)) {i k : Nat} (h : i ≤ k) :
    (front ls i).length ≤ (front ls k).length := by
  obtain ⟨d, rfl⟩ := Nat.exists_eq_add_of_le h
  rw [front, front, List.take_add, List.flatMap_append, List.length_append]
  omega

/-- Before line `k` stands each earlier line with its line feed. -/
theorem length_front_lt {ls : List (List Char)} {i k : Nat} {l : List Char} (h : ls[i]? = some l)
    (hik : i < k) : (front ls i).length + l.length < (front ls k).length := by
  have hle := length_front_mono ls (Nat.succ_le_of_lt hik)
  rw [Nat.succ_eq_add_one, front_succ h, List.length_append, List.length_append,
    List.length_singleton] at hle
  omega

/-- A text is what stands before a line, the line, and nothing or a line feed with the rest. -/
theorem exists_rest {cs : List Char} {k : Nat} {l : List Char} (h : (textLines cs)[k]? = some l) :
    ∃ rest, cs = front (textLines cs) k ++ (l ++ rest) ∧ '\n' ∉ l ∧
      ((textLines cs)[k + 1]? = none ∧ rest = [] ∨
        ∃ m rest', (textLines cs)[k + 1]? = some m ∧ rest = '\n' :: rest') := by
  induction cs generalizing k l with
  | nil =>
    cases k with
    | zero =>
      cases h
      exact ⟨[], rfl, List.not_mem_nil, Or.inl ⟨rfl, rfl⟩⟩
    | succ k => cases h
  | cons c cs ih =>
    -- A line feed opens an empty line; any other character goes in front of the first line.
    by_cases hc : c = '\n'
    · have hcut : textLines (c :: cs) = [] :: textLines cs := by
        rw [hc]
        exact Search.pieces_sep_cons '\n' cs
      rw [hcut] at h ⊢
      cases k with
      | zero =>
        cases h
        obtain ⟨m, ms, hm⟩ := List.exists_cons_of_ne_nil (Search.pieces_ne_nil '\n' cs)
        refine ⟨c :: cs, rfl, List.not_mem_nil, Or.inr ⟨m, cs, ?_, by rw [hc]⟩⟩
        rw [List.getElem?_cons_succ, textLines, hm, List.getElem?_cons_zero]
      | succ k =>
        rw [List.getElem?_cons_succ] at h
        obtain ⟨rest, hrest, hl, hend⟩ := ih h
        refine ⟨rest, ?_, hl, hend⟩
        rw [front_cons_succ, hc]
        exact congrArg _ hrest
    · obtain ⟨p, ps, hp, hcut⟩ := Search.pieces_cons_of_ne hc cs
      rw [textLines, hcut]
      rw [textLines, hcut] at h
      rw [textLines, hp] at ih
      cases k with
      | zero =>
        cases h
        obtain ⟨rest, hrest, hl, hend⟩ := ih (k := 0) rfl
        refine ⟨rest, congrArg (c :: ·) hrest, ?_, hend⟩
        rw [List.mem_cons, not_or]
        exact ⟨Ne.symm hc, hl⟩
      | succ k =>
        obtain ⟨rest, hrest, hl, hend⟩ := ih (k := k + 1) h
        refine ⟨rest, ?_, hl, hend⟩
        rw [front_cons_succ] at hrest ⊢
        exact congrArg (c :: ·) hrest

/-- **Where a part of the text ends**: in the line before which stand the line feeds of the part. -/
theorem exists_part (rest : List Char) : ∀ pre : List Char, ∃ part tail,
    (textLines (pre ++ rest))[pre.count '\n']? = some (part ++ tail) ∧
      front (textLines (pre ++ rest)) (pre.count '\n') ++ part = pre
  | [] => by
    obtain ⟨l, ls, hl⟩ := List.exists_cons_of_ne_nil (Search.pieces_ne_nil '\n' rest)
    refine ⟨[], l, ?_, rfl⟩
    rw [List.nil_append, textLines, hl]
    rfl
  | c :: pre => by
    obtain ⟨part, tail, hline, hpart⟩ := exists_part rest pre
    by_cases hc : c = '\n'
    · have hcut : textLines (c :: pre ++ rest) = [] :: textLines (pre ++ rest) := by
        rw [hc]
        exact Search.pieces_sep_cons '\n' (pre ++ rest)
      refine ⟨part, tail, ?_, ?_⟩
      · rw [hcut, hc, List.count_cons_self, List.getElem?_cons_succ, hline]
      · rw [hcut, hc, List.count_cons_self, front_cons_succ]
        exact congrArg ('\n' :: ·) hpart
    · obtain ⟨p, ps, hp, hcut⟩ := Search.pieces_cons_of_ne hc (pre ++ rest)
      rw [textLines, hp] at hline hpart
      rw [List.cons_append, textLines, hcut, List.count_cons_of_ne hc]
      cases hk : pre.count '\n' with
      | zero =>
        rw [hk] at hline hpart
        cases hline
        exact ⟨c :: part, tail, rfl, congrArg (c :: ·) hpart⟩
      | succ k =>
        rw [hk, front_cons_succ] at hpart
        rw [hk] at hline
        refine ⟨part, tail, hline, ?_⟩
        rw [front_cons_succ]
        exact congrArg (c :: ·) hpart

/-! ### Offsets of lines -/

theorem lineStartsFrom_append {l : Bytes} (hl : newline ∉ l) (i : Nat) (r : Bytes) :
    lineStartsFrom i (l ++ r) = lineStartsFrom (i + l.length) r := by
  induction l generalizing i with
  | nil => rfl
  | cons x l ih =>
    rw [List.mem_cons, not_or] at hl
    have hlen : i + 1 + l.length = i + (x :: l).length := by
      rw [List.length_cons]
      omega
    rw [List.cons_append, lineStartsFrom, if_neg (Ne.symm hl.1), ih hl.2, hlen]

/-- The offsets at which lines start, behind the encodings of what stands before them. -/
theorem lineStartsFrom_encodeList (cs : List Char) : ∀ i,
    i :: lineStartsFrom i (Utf8.encodeList cs) = (List.range (textLines cs).length).map
      fun k => i + (Utf8.encodeList (front (textLines cs) k)).length := by
  induction cs with
  | nil =>
    intro i
    rfl
  | cons c cs ih =>
    intro i
    by_cases hc : c = '\n'
    · have hcut : textLines (c :: cs) = [] :: textLines cs := by
        rw [hc]
        exact Search.pieces_sep_cons '\n' cs
      have hstep : lineStartsFrom i (Utf8.encodeList (c :: cs)) =
          (i + 1) :: lineStartsFrom (i + 1) (Utf8.encodeList cs) := by
        rw [Utf8.encodeList_cons, hc, Utf8.encodeChar_newline, List.singleton_append,
          lineStartsFrom, if_pos rfl]
      rw [hstep, ih, hcut, List.length_cons, List.range_succ_eq_map, List.map_cons, List.map_map]
      refine congrArg₂ List.cons rfl (List.map_congr_left fun k _ => ?_)
      simp only [Function.comp_apply, Nat.succ_eq_add_one, front_cons_succ, List.nil_append,
        Utf8.encodeList_cons, Utf8.encodeChar_newline, List.length_append, List.length_singleton]
      omega
    · obtain ⟨p, ps, hp, hcut⟩ := Search.pieces_cons_of_ne hc cs
      have ih := ih (i + (String.utf8EncodeChar c).length)
      rw [textLines, hp, List.length_cons, List.range_succ_eq_map, List.map_cons, List.map_map,
        List.cons.injEq] at ih
      rw [Utf8.encodeList_cons, lineStartsFrom_append (Utf8.newline_not_mem_encodeChar hc), ih.2,
        textLines, hcut, List.length_cons, List.range_succ_eq_map, List.map_cons, List.map_map]
      refine congrArg₂ List.cons rfl (List.map_congr_left fun k _ => ?_)
      simp only [Function.comp_apply, Nat.succ_eq_add_one, front_cons_succ, List.cons_append,
        Utf8.encodeList_cons, List.length_append]
      omega

variable {source : String} {k : Nat} {l : List Char}

theorem starts_ofSource (source : String) : (ofSource source).starts =
    (List.range (textLines source.toList).length).map
      fun k => (Utf8.encodeList (front (textLines source.toList) k)).length := by
  have h := lineStartsFrom_encodeList source.toList 0
  simp only [Nat.zero_add] at h
  exact h

theorem size_ofSource (source : String) :
    (ofSource source).size = (textLines source.toList).length := by
  rw [size, starts_ofSource, List.length_map, List.length_range]

/-- **A line starts** behind what stands before it. -/
theorem startOf_eq (h : (textLines source.toList)[k]? = some l) :
    (ofSource source).startOf k =
      (Utf8.encodeList (front (textLines source.toList) k)).length := by
  obtain ⟨hk, -⟩ := List.getElem?_eq_some_iff.mp h
  rw [startOf, starts_ofSource, List.getElem?_map, List.getElem?_range hk]
  rfl

/-! ### Parts of an encoded text -/

theorem slice_encodeList (p q r : List Char) :
    slice (Utf8.encodeList (p ++ (q ++ r))) ((Utf8.encodeList p).length : Int)
      ((Utf8.encodeList (p ++ q)).length : Int) = Utf8.encodeList q := by
  have hbytes : Utf8.encodeList (p ++ (q ++ r)) =
      Utf8.encodeList (p ++ q) ++ Utf8.encodeList r := by
    rw [← Utf8.encodeList_append, List.append_assoc]
  rw [slice_natCast, hbytes, List.take_left, Utf8.encodeList_append, List.drop_left]

theorem charsBetween_encodeList {p q r : List Char} (h : source.toList = p ++ (q ++ r)) :
    (ofSource source).charsBetween ((Utf8.encodeList p).length : Int)
      ((Utf8.encodeList (p ++ q)).length : Int) = q.length := by
  have hbytes : (ofSource source).bytes = Utf8.encodeList (p ++ (q ++ r)) := by
    rw [← h]
    rfl
  rw [charsBetween, hbytes, slice_encodeList, Utf8.items_encodeList, List.length_map]

theorem count_newline_encodeList (cs : List Char) :
    (Utf8.encodeList cs).count newline = cs.count '\n' := by
  induction cs with
  | nil => rfl
  | cons c cs ih =>
    rw [Utf8.encodeList_cons, List.count_append, ih]
    by_cases hc : c = '\n'
    · rw [hc, Utf8.encodeChar_newline, List.count_singleton_self, List.count_cons_self]
      omega
    · rw [List.count_eq_zero.mpr (Utf8.newline_not_mem_encodeChar hc), List.count_cons_of_ne hc]
      omega

/-- The line of an offset is the number of line feeds before it. -/
theorem lineOf_eq (source : String) (o : Nat) :
    (ofSource source).lineOf (o : Int) = ((Utf8.encode source).take o).count newline := by
  have h := length_takeWhile_lineStarts (Utf8.encode source) o
  change (List.takeWhile _ (lineStarts (Utf8.encode source))).length - 1 = _
  rw [h, Nat.add_sub_cancel]

/-! ### Lines and columns of characters -/

section Parts

variable {pre rest : List Char}

/-- **The line behind a part of the source.** -/
theorem lineOf_part (h : source.toList = pre ++ rest) :
    (ofSource source).lineOf ((Utf8.encodeList pre).length : Int) = pre.count '\n' := by
  rw [lineOf_eq, Utf8.encode, h, Utf8.encodeList_append, List.take_left, count_newline_encodeList]

/-- The last byte of a part stands in the same line, unless it is a line feed. -/
theorem lineOf_part_pred {c : Char} (h : source.toList = pre ++ (c :: rest)) (hc : c ≠ '\n') :
    (ofSource source).lineOf ((Utf8.encodeList (pre ++ [c])).length - 1 : Int) =
      (pre ++ [c]).count '\n' := by
  have hpos : 0 < (String.utf8EncodeChar c).length :=
    List.length_pos_iff.mpr String.utf8EncodeChar_ne_nil
  have hlen : (Utf8.encodeList (pre ++ [c])).length =
      (Utf8.encodeList pre).length + (String.utf8EncodeChar c).length := by
    rw [Utf8.encodeList_append, List.length_append, Utf8.encodeList_cons, Utf8.encodeList_nil,
      List.append_nil]
  have hcast : ((Utf8.encodeList (pre ++ [c])).length - 1 : Int) =
      (((Utf8.encodeList pre).length + ((String.utf8EncodeChar c).length - 1) : Nat) : Int) := by
    omega
  have hnone : newline ∉ (String.utf8EncodeChar c).take ((String.utf8EncodeChar c).length - 1) :=
    fun hm => Utf8.newline_not_mem_encodeChar hc (List.mem_of_mem_take hm)
  rw [hcast, lineOf_eq, Utf8.encode, h, Utf8.encodeList_append, List.take_length_add_append,
    Utf8.encodeList_cons, List.take_append_of_le_length (Nat.sub_le _ _), List.count_append,
    List.count_eq_zero.mpr hnone, count_newline_encodeList, List.count_append,
    List.count_singleton, if_neg (by simpa using hc)]

theorem charsBetween_part (h : source.toList = pre ++ rest) :
    (ofSource source).charsBetween ((ofSource source).startOf (pre.count '\n') : Int)
        ((Utf8.encodeList pre).length : Int) =
      pre.length - (front (textLines source.toList) (pre.count '\n')).length := by
  obtain ⟨part, tail, hline, hpart⟩ := exists_part rest pre
  rw [← h] at hline hpart
  have hsplit : source.toList =
      front (textLines source.toList) (pre.count '\n') ++ (part ++ rest) := by
    rw [← List.append_assoc, hpart, h]
  have hchars := charsBetween_encodeList hsplit
  have hlen := congrArg List.length hpart
  rw [List.length_append] at hlen
  rw [hpart] at hchars
  rw [startOf_eq hline, hchars]
  omega

/-- **The column behind a part of the source** counts its characters in its last line. -/
theorem columnOf_part (h : source.toList = pre ++ rest) :
    (ofSource source).columnOf ((Utf8.encodeList pre).length : Int) =
      pre.length - (front (textLines source.toList) (pre.count '\n')).length := by
  rw [columnOf, lineOf_part h]
  exact charsBetween_part h

theorem widthUntil_part (h : source.toList = pre ++ rest) :
    (ofSource source).widthUntil (pre.count '\n') ((Utf8.encodeList pre).length : Int) =
      pre.length - (front (textLines source.toList) (pre.count '\n')).length := by
  obtain ⟨part, tail, hline, hpart⟩ := exists_part rest pre
  rw [← h] at hline hpart
  have hle : (ofSource source).startOf (pre.count '\n') ≤ (Utf8.encodeList pre).length := by
    rw [startOf_eq hline]
    conv_rhs => rw [← hpart, Utf8.encodeList_append, List.length_append]
    omega
  have hmax : max ((Utf8.encodeList pre).length : Int)
      ((ofSource source).startOf (pre.count '\n') : Int) = (Utf8.encodeList pre).length := by
    omega
  rw [widthUntil, hmax]
  exact charsBetween_part h

end Parts

/-- **The text of a line**, without the carriage returns at its end. -/
theorem lineText_eq_dropEndWhile (h : (textLines source.toList)[k]? = some l) :
    (ofSource source).lineText k =
      String.ofList (Search.dropEndWhile (fun c => c == '\r' || c == '\n') l) := by
  obtain ⟨rest, hsplit, -, hend⟩ := exists_rest h
  have hbytes : (ofSource source).bytes =
      Utf8.encodeList (front (textLines source.toList) k ++ (l ++ rest)) := by
    rw [← hsplit]
    rfl
  rw [lineText, startOf_eq h, hbytes]
  -- The last line ends with the source, any other where the next one starts, behind a line feed.
  rcases hend with ⟨hlast, rfl⟩ | ⟨m, rest', hnext, rfl⟩
  · have hstop : (ofSource source).stopOf k =
        (Utf8.encodeList (front (textLines source.toList) k ++ l)).length := by
      have hnone : (ofSource source).starts[k + 1]? = none := by
        rw [starts_ofSource, List.getElem?_eq_none_iff, List.length_map, List.length_range]
        exact List.getElem?_eq_none_iff.mp hlast
      rw [stopOf, hnone, hbytes, List.append_nil]
      rfl
    rw [hstop, slice_encodeList, Utf8.decodeLossyList_encodeList]
  · have hstop : (ofSource source).stopOf k =
        (Utf8.encodeList (front (textLines source.toList) k ++ (l ++ ['\n']))).length := by
      have hstart := startOf_eq hnext
      obtain ⟨hk, -⟩ := List.getElem?_eq_some_iff.mp hnext
      rw [front_succ h] at hstart
      rw [← hstart, stopOf, startOf, starts_ofSource, List.getElem?_map, List.getElem?_range hk]
      rfl
    have hrest : l ++ '\n' :: rest' = (l ++ ['\n']) ++ rest' := by simp
    rw [hstop, hrest, slice_encodeList, Utf8.decodeLossyList_encodeList,
      Search.dropEndWhile_append_of_pos (by decide)]

/-- **The text of a line** of a source without carriage returns. -/
theorem lineText_eq (h : (textLines source.toList)[k]? = some l) (hl : '\r' ∉ source.toList) :
    (ofSource source).lineText k = String.ofList l := by
  obtain ⟨rest, hsplit, hfeed, -⟩ := exists_rest h
  have hreturn : '\r' ∉ l := by
    intro hm
    rw [hsplit] at hl
    exact hl (List.mem_append_right _ (List.mem_append_left _ hm))
  have hkeep : Search.dropEndWhile (fun c => c == '\r' || c == '\n') l = l := by
    refine Search.dropEndWhile_eq_self fun c hc => ?_
    have hne : c ≠ '\r' ∧ c ≠ '\n' := ⟨fun h => hreturn (h ▸ hc), fun h => hfeed (h ▸ hc)⟩
    simp [hne]
  rw [lineText_eq_dropEndWhile h, hkeep]

/-- What is shown of the text of a line is what is shown of the line. -/
theorem kept_lineText (h : (textLines source.toList)[k]? = some l) :
    Styled.kept ((ofSource source).lineText k).toList = Styled.kept l := by
  obtain ⟨-, -, hfeed, -⟩ := exists_rest h
  rw [lineText_eq_dropEndWhile h, String.toList_ofList, Styled.kept_dropEndWhile hfeed]

/-! ### Lines of any offset -/

/-- The line of any offset: one before the source lies in the first line, one behind it in the
last. -/
theorem lineOf_eq_count (source : String) (o : Int) :
    (ofSource source).lineOf o = ((Utf8.encode source).take o.toNat).count newline := by
  rcases Int.lt_or_le o 0 with hneg | hpos
  · have hnone : ¬ ((0 : Nat) : Int) ≤ o := by omega
    have hzero : o.toNat = 0 := by omega
    have hempty : (0 :: lineStartsFrom 0 (Utf8.encode source)).takeWhile
        (fun (s : Nat) => decide ((s : Int) ≤ o)) = [] :=
      List.takeWhile_cons_of_neg (by rwa [decide_eq_true_eq])
    change (List.takeWhile _ (0 :: lineStartsFrom 0 (Utf8.encode source))).length - 1 = _
    rw [hempty, hzero]
    rfl
  · have hnat : o = (o.toNat : Int) := by omega
    conv_lhs => rw [hnat]
    exact lineOf_eq source o.toNat

theorem lineOf_lt (source : String) (o : Int) :
    (ofSource source).lineOf o < (textLines source.toList).length := by
  have hle : ((ofSource source).starts.takeWhile fun (s : Nat) => (s : Int) ≤ o).length ≤
      (ofSource source).size := (List.takeWhile_prefix _).length_le
  have hpos : 0 < (textLines source.toList).length :=
    List.length_pos_iff.mpr (Search.pieces_ne_nil '\n' source.toList)
  rw [size_ofSource] at hle
  rw [lineOf]
  omega

end LineIndex

end HouseRules
