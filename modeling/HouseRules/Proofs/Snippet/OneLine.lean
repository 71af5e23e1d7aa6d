import HouseRules.Proofs.Text.Lines
import HouseRules.Proofs.Text.Utf8
import HouseRules.Snippet.Message

/-! # Snippets that mark a part of one line

The index of a source finds line `k` for each offset in it (`lineOf_line`), and columns are
counted from the start of the line. A snippet whose marked bytes lie in one line is shown in five
rows: where it is, a bar, the line, the carets, a bar (`MarksLine.rows_eq`). -/

namespace HouseRules

open Bytes

namespace LineIndex

variable {source : String} {l : Bytes} {k i j : Nat}

/-- The offset of a line of a source. -/
def offset (source : String) (k : Nat) : Nat := lineOffset (Utf8.encode source) k

theorem starts_of_line (h : (cutLines (Utf8.encode source))[k]? = some l) :
    (ofSource source).startOf k = offset source k ∧
      (ofSource source).stopOf k = offset source k + l.length := by
  have hrange := Diff.lineRange?_lineStarts (Utf8.encode source) k
  rw [h, Option.map_some, Diff.lineRange?_succ] at hrange
  obtain ⟨start, hstart, hstop⟩ := Option.bind_eq_some_iff.mp hrange
  split_ifs at hstop with heq
  rw [Option.some.injEq, Prod.mk.injEq] at hstop
  obtain ⟨rfl, hstop⟩ := hstop
  refine ⟨?_, hstop⟩
  rw [startOf]
  change (lineStarts (Utf8.encode source))[k]?.getD 0 = _
  rw [hstart]
  rfl

theorem lineOf_line (h : (cutLines (Utf8.encode source))[k]? = some l) (hj : j < l.length) :
    (ofSource source).lineOf ((offset source k + j : Nat) : Int) = k := by
  have hlen := length_takeWhile_lineStarts (Utf8.encode source) (offset source k + j)
  rw [offset, count_newline_take h hj] at hlen
  change (List.takeWhile _ (lineStarts (Utf8.encode source))).length - 1 = k
  rw [offset, hlen, Nat.add_sub_cancel]

theorem charsBetween_line (h : (cutLines (Utf8.encode source))[k]? = some l) (hj : j ≤ l.length) :
    (ofSource source).charsBetween ((offset source k : Nat) : Int)
      ((offset source k + j : Nat) : Int) = (Utf8.items (l.take j)).length := by
  have hslice := slice_line (i := 0) h hj
  rw [Nat.add_zero, List.drop_zero] at hslice
  rw [charsBetween]
  exact congrArg _ (congrArg _ hslice)

theorem columnOf_line (h : (cutLines (Utf8.encode source))[k]? = some l) (hj : j < l.length) :
    (ofSource source).columnOf ((offset source k + j : Nat) : Int) =
      (Utf8.items (l.take j)).length := by
  rw [columnOf, lineOf_line h hj, (starts_of_line h).1]
  exact charsBetween_line h (Nat.le_of_lt hj)

theorem widthUntil_line (h : (cutLines (Utf8.encode source))[k]? = some l) (hj : j ≤ l.length) :
    (ofSource source).widthUntil k ((offset source k + j : Nat) : Int) =
      (Utf8.items (l.take j)).length := by
  have hmax : max ((offset source k + j : Nat) : Int) ((offset source k : Nat) : Int) =
      ((offset source k + j : Nat) : Int) := by omega
  rw [widthUntil, (starts_of_line h).1, hmax]
  exact charsBetween_line h hj

theorem lineText_line (h : (cutLines (Utf8.encode source))[k]? = some l) :
    (ofSource source).lineText k = String.ofList
      (Search.dropEndWhile (fun c => c == '\r' || c == '\n') (Utf8.decodeLossyList l)) := by
  rw [lineText, (starts_of_line h).1, (starts_of_line h).2]
  exact congrArg _ (congrArg _ (congrArg _ (slice_line_self h)))

end LineIndex

namespace Snippet

open Styled

variable {s : Snippet} {l : Bytes} {k i j : Nat}

/-- The marked bytes are those from `i` up to `j` of line `k`, which is `l`. -/
structure MarksLine (s : Snippet) (k : Nat) (l : Bytes) (i j : Nat) : Prop where
  /-- Only the line is shown. -/
  fold : s.fold = true
  /-- It is a line of the source. -/
  line : (cutLines (Utf8.encode s.source))[k]? = some l
  /-- Where the marked bytes are. -/
  range : s.range = ⟨((LineIndex.offset s.source k + i : Nat) : Int),
    ((LineIndex.offset s.source k + j : Nat) : Int)⟩
  /-- There are some. -/
  lt : i < j
  /-- They belong to the line. -/
  le : j ≤ l.length

theorem MarksLine.layout_eq (h : s.MarksLine k l i j) : s.layout =
    { index := LineIndex.ofSource s.source, range := s.range, first := k, last := k, shown := [k]
      width := (Nat.repr (k + 1)).length } := by
  have hfirst : (LineIndex.ofSource s.source).lineOf s.range.start = k := by
    rw [h.range]
    exact LineIndex.lineOf_line h.line (Nat.lt_of_lt_of_le h.lt h.le)
  have hlast : (LineIndex.ofSource s.source).lineOf
      (if s.range.start < s.range.stop then s.range.stop - 1 else s.range.start) = k := by
    have hlt := h.lt
    have hle := h.le
    have hstop : ((LineIndex.offset s.source k + j : Nat) : Int) - 1 =
        ((LineIndex.offset s.source k + (j - 1) : Nat) : Int) := by omega
    rw [h.range]
    simp only
    rw [if_pos (by omega), hstop]
    exact LineIndex.lineOf_line h.line (by omega)
  simp only [layout, hfirst, hlast, h.fold, if_true, Nat.add_sub_cancel_left, List.range'_one]
  rfl

end Snippet

/-! ### Kept characters -/

namespace Styled

theorem kept_append (cs ds : List Char) : kept (cs ++ ds) = kept cs ++ kept ds :=
  List.filter_append cs ds

theorem kept_replicate {c : Char} (h : isDropped c = false) (n : Nat) :
    kept (List.replicate n c) = List.replicate n c := by
  rw [kept, List.filter_replicate_of_pos]
  rw [h]
  rfl

theorem isDigit_of_mem_repr {c : Char} {n : Nat} (h : c ∈ (Nat.repr n).toList) :
    c.isDigit = true := by
  rw [Nat.toList_repr] at h
  exact Nat.isDigit_of_mem_toDigits (by decide) (by decide) h

theorem not_mem_repr {c : Char} (hc : c.isDigit = false) (n : Nat) : c ∉ (Nat.repr n).toList := by
  intro hmem
  have hdigit := isDigit_of_mem_repr hmem
  rw [hc] at hdigit
  cases hdigit

theorem kept_repr (n : Nat) : kept (Nat.repr n).toList = (Nat.repr n).toList := by
  refine List.filter_eq_self.mpr fun c hc => ?_
  have hd := isDigit_of_mem_repr hc
  rw [Char.isDigit, Bool.and_eq_true, decide_eq_true_eq, decide_eq_true_eq] at hd
  have h1 : 48 ≤ c.toNat := UInt32.le_iff_toNat_le.mp hd.1
  have hdropped : isDropped c = false := by
    simp only [isDropped, Bool.or_eq_false_iff, Bool.and_eq_false_iff, beq_eq_false_iff_ne,
      decide_eq_false_iff_not]
    omega
  rw [hdropped]
  rfl

@[simp]
theorem StyledText.chars_nil : StyledText.chars [] = [] := rfl

@[simp]
theorem StyledText.chars_span_cons (text : String) (style : Style) (t : StyledText) :
    StyledText.chars (span text style :: t) = kept text.toList ++ StyledText.chars t := rfl

@[simp]
theorem StyledText.chars_bare_cons (text : String) (t : StyledText) :
    StyledText.chars (bare text :: t) = kept text.toList ++ StyledText.chars t := rfl

/-- The characters of rows joined by line feeds. -/
theorem StyledText.chars_join : ∀ rows : List StyledText,
    StyledText.chars (Search.join [bare "\n"] rows) =
      Search.join ['\n'] (rows.map StyledText.chars)
  | [] => rfl
  | [r] => rfl
  | r :: r' :: rows => by
    have ih := StyledText.chars_join (r' :: rows)
    rw [Search.join, List.map_cons, List.map_cons, Search.join, ← List.map_cons, ← ih]
    simp only [StyledText.chars, List.flatMap_append, List.flatMap_singleton]
    rfl

/-- The ends of a line are not shown anyway. -/
theorem kept_dropEndWhile {cs : List Char} (h : '\n' ∉ cs) :
    kept (Search.dropEndWhile (fun c => c == '\r' || c == '\n') cs) = kept cs := by
  obtain ⟨tail, htail, hall⟩ := Search.eq_dropEndWhile_append (fun c => c == '\r' || c == '\n') cs
  have hnone : kept tail = [] := by
    refine List.filter_eq_nil_iff.mpr fun c hc => ?_
    have hne : c ≠ '\n' := by
      rintro rfl
      exact h (htail ▸ List.mem_append_right _ hc)
    have hcr : c = '\r' := by simpa [hne] using hall c hc
    rw [hcr]
    decide
  conv_rhs => rw [htail, kept_append, hnone, List.append_nil]

end Styled

/-! ### Rows -/

namespace Snippet.Layout

open Styled

variable (l : Layout)

theorem kept_repeated {c : Char} (h : isDropped c = false) (n : Nat) :
    kept (repeated n c).toList = List.replicate n c := by
  rw [repeated, String.toList_ofList, kept_replicate h]

theorem kept_pad : kept l.pad.toList = List.replicate l.width ' ' := kept_repeated (by decide) _

theorem chars_locationRow (origin : String) : StyledText.chars (l.locationRow origin) =
    List.replicate l.width ' ' ++ ("--> ".toList ++ (kept origin.toList ++
      (':' :: (Nat.repr (l.first + 1)).toList ++
        ':' :: (Nat.repr (l.index.columnOf l.range.start + 1)).toList))) := by
  have hnat : ∀ n : Nat, toString n = Nat.repr n := fun _ => rfl
  have htoString : ∀ text : String, toString text = text := fun _ => rfl
  have harrow : kept "--> ".toList = "--> ".toList := by decide
  have hcolon : kept ":".toList = [':'] := by decide
  simp only [locationRow, StyledText.chars_span_cons, StyledText.chars_bare_cons,
    StyledText.chars_nil, String.toList_append, kept_append, kept_pad, kept_repr, hnat, htoString,
    harrow, hcolon, List.append_assoc, List.append_nil, List.cons_append, List.nil_append]

theorem chars_barRow :
    StyledText.chars l.barRow = List.replicate l.width ' ' ++ " |".toList := by
  have hbar : kept " |".toList = " |".toList := by decide
  simp only [barRow, StyledText.chars_span_cons, StyledText.chars_nil, String.toList_append,
    kept_append, kept_pad, hbar, List.append_nil]

theorem chars_sourceRow (line : Nat) : StyledText.chars (l.sourceRow line) =
    List.replicate (l.width - (Nat.repr (line + 1)).length) ' ' ++
      ((Nat.repr (line + 1)).toList ++ (" | ".toList ++ kept (l.index.lineText line).toList)) := by
  have hbar : kept " | ".toList = " | ".toList := by decide
  have hblank : isDropped ' ' = false := by decide
  simp only [sourceRow, number, StyledText.chars_span_cons, StyledText.chars_bare_cons,
    StyledText.chars_nil, String.toList_append, kept_append, kept_repeated hblank, kept_repr, hbar,
    List.append_assoc, List.append_nil]

theorem chars_caretRow (label : String) (line : Nat) :
    StyledText.chars (l.caretRow label line) = List.replicate l.width ' ' ++ (" | ".toList ++
      (List.replicate (l.caretStart line) ' ' ++
        (List.replicate (max (l.caretStop line - l.caretStart line) 1) '^' ++
          if line = l.last ∧ label ≠ "" then ' ' :: kept label.toList else []))) := by
  have hbar : kept " | ".toList = " | ".toList := by decide
  have hblank : isDropped ' ' = false := by decide
  have hcaret : isDropped '^' = false := by decide
  have hspace : kept " ".toList = [' '] := by decide
  by_cases h : line = l.last ∧ label ≠ ""
  · have hlabel : (decide (line = l.last) && decide (label ≠ "")) = true := by simp [h]
    simp only [caretRow, if_pos h, hlabel, if_true, List.cons_append, List.nil_append,
      StyledText.chars_span_cons, StyledText.chars_bare_cons, StyledText.chars_nil,
      String.toList_append, kept_append, kept_pad, kept_repeated hblank, kept_repeated hcaret, hbar,
      hspace, List.append_assoc, List.append_nil]
  · have hlabel : ¬ (decide (line = l.last) && decide (label ≠ "")) = true := by simpa using h
    simp only [caretRow, if_neg h, if_neg hlabel, StyledText.chars_span_cons,
      StyledText.chars_bare_cons, StyledText.chars_nil, String.toList_append, kept_append, kept_pad,
      kept_repeated hblank, kept_repeated hcaret, hbar, List.append_assoc, List.append_nil]

end Snippet.Layout

theorem Message.chars_helpRow (pad : String) (help : Styled.StyledText) :
    Styled.StyledText.chars (Message.helpRow pad help) =
      Styled.kept pad.toList ++ (" = help: ".toList ++ help.chars) := by
  have hmarks : Styled.kept " = ".toList ++ (Styled.kept "help".toList ++ Styled.kept ": ".toList) =
      " = help: ".toList := by decide
  rw [Message.helpRow, ← hmarks]
  simp only [List.cons_append, List.nil_append, Styled.StyledText.chars_span_cons,
    Styled.StyledText.chars_bare_cons, String.toList_append, Styled.kept_append, List.append_assoc]

namespace Snippet

open Styled

variable {s : Snippet} {l : Bytes} {k i j : Nat}

/-- The characters of the rows for a line with the number `n`: `blanks` characters of it stand in
front of the carets. -/
def lineRows (origin label : String) (n : Nat) (line : List Char) (blanks carets : Nat) :
    List (List Char) :=
  let pad := List.replicate (Nat.repr n).length ' '
  [pad ++ ("--> ".toList ++ (kept origin.toList ++
      (':' :: (Nat.repr n).toList ++ ':' :: (Nat.repr (blanks + 1)).toList))),
    pad ++ " |".toList,
    (Nat.repr n).toList ++ (" | ".toList ++ kept line),
    pad ++ (" | ".toList ++ (List.replicate blanks ' ' ++ (List.replicate carets '^' ++
      (' ' :: kept label.toList)))),
    pad ++ " |".toList]

theorem lineRows_congr (origin label : String) (n : Nat) {line line' : List Char}
    (h : kept line = kept line') (blanks carets : Nat) :
    lineRows origin label n line blanks carets = lineRows origin label n line' blanks carets := by
  rw [lineRows, h]
  rfl

/-- **The rows of a snippet that marks a part of a line.** -/
theorem MarksLine.rows_eq (h : s.MarksLine k l i j) (hlabel : s.label ≠ "") :
    s.rows.map StyledText.chars = lineRows s.origin s.label (k + 1)
      (Search.dropEndWhile (fun c => c == '\r' || c == '\n') (Utf8.decodeLossyList l))
      (Utf8.items (l.take i)).length
      (max ((Utf8.items (l.take j)).length - (Utf8.items (l.take i)).length) 1) := by
  have hcol : (LineIndex.ofSource s.source).columnOf s.range.start =
      (Utf8.items (l.take i)).length := by
    rw [h.range]
    exact LineIndex.columnOf_line h.line (Nat.lt_of_lt_of_le h.lt h.le)
  have hwidth : (LineIndex.ofSource s.source).widthUntil k s.range.stop =
      (Utf8.items (l.take j)).length := by
    rw [h.range]
    exact LineIndex.widthUntil_line h.line h.le
  have htext := LineIndex.lineText_line h.line
  simp only [rows, h.layout_eq, List.flatMap_singleton, Layout.rows, Layout.marks, Nat.le_refl,
    decide_true, Bool.and_self, if_true, List.cons_append, List.nil_append, List.map_cons,
    List.map_nil, Layout.chars_locationRow, Layout.chars_barRow, Layout.chars_sourceRow,
    Layout.chars_caretRow, Layout.caretStart, Layout.caretStop, hcol, hwidth, htext,
    String.toList_ofList, Nat.sub_self, List.replicate_zero, hlabel, ne_eq, not_false_eq_true,
    and_self, lineRows]

/-- **A message with a snippet that marks a part of a line.** -/
theorem MarksLine.render_eq (h : s.MarksLine k l i j) (hlabel : s.label ≠ "") {m : Message}
    {help : StyledText} (hsnippets : m.snippets = [s]) (hhelp : m.help = some help) :
    Rendering.plain.render m = String.ofList (Search.join ['\n'] (
      m.titleRow.chars :: lineRows s.origin s.label (k + 1)
        (Search.dropEndWhile (fun c => c == '\r' || c == '\n') (Utf8.decodeLossyList l))
        (Utf8.items (l.take i)).length
        (max ((Utf8.items (l.take j)).length - (Utf8.items (l.take i)).length) 1) ++
      [List.replicate (Nat.repr (k + 1)).length ' ' ++ (" = help: ".toList ++ help.chars)])) := by
  have hpad : kept s.pad.toList = List.replicate (Nat.repr (k + 1)).length ' ' := by
    rw [pad, Layout.kept_pad, h.layout_eq]
  have hhelpRow : StyledText.chars (Message.helpRow s.pad help) =
      List.replicate (Nat.repr (k + 1)).length ' ' ++ (" = help: ".toList ++ help.chars) := by
    rw [Message.chars_helpRow, hpad]
  rw [Rendering.render, StyledText.plain, Message.text, StyledText.chars_join, Message.rows]
  simp only [hsnippets, hhelp, List.flatMap_singleton, List.getLast?_singleton, Option.map_some,
    Option.getD_some, Option.toList_some, List.map_cons, List.map_append, List.map_nil,
    List.cons_append, h.rows_eq hlabel, hhelpRow]

end Snippet

end HouseRules
