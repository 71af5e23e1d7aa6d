import HouseRules.Proofs.Check.AddedLines
import HouseRules.Proofs.Snippet.CaretColumns

/-! # Carets below a marked line

The carets below a marked line reach from its first character that is no white space up to its line
feed. The row above shows the line without the characters that no text keeps, so the carets run past
it by the number of these characters (`length_lineRow_add`). A carriage return before the line feed
is such a character. -/

namespace HouseRules.CommittedTodos

open Bytes Diff Styled Snippet

/-! ### Characters that are not shown -/

/-- How many characters of a text are not kept. -/
def dropped (cs : List Char) : Nat := cs.countP isDropped

theorem length_kept_add (cs : List Char) : (kept cs).length + dropped cs = cs.length := by
  have hlen := List.length_eq_countP_add_countP isDropped (l := cs)
  have hkept : (kept cs).length = cs.countP fun c => ¬ isDropped c := by
    rw [kept, ← List.countP_eq_length_filter]
    exact List.countP_congr fun c _ => by simp
  rw [hkept, dropped]
  omega

theorem length_lineRow_add (n : Nat) (cs : List Char) :
    (lineRow n cs).length + dropped cs = margin n + cs.length := by
  have := length_kept_add cs
  rw [length_lineRow]
  omega

/-! ### The carets -/

section Carets

variable (n : Nat) {b : Nat} {cs : List Char} (h : b < cs.length)

include h

theorem getElem?_carets_iff (j : Nat) : (caretsRow title n b (cs.length - b))[j]? = some '^' ↔
    margin n + b ≤ j ∧ j < (lineRow n cs).length + dropped cs := by
  have hlen := length_lineRow_add n cs
  rw [getElem?_caretsRow_iff (by decide)]
  omega

/-- **No caret stands behind the line** if and only if the line is shown with all its
characters. -/
theorem forall_carets_lt_iff :
    (∀ j : Nat, (caretsRow title n b (cs.length - b))[j]? = some '^' → j < (lineRow n cs).length) ↔
      ∀ c ∈ cs, isDropped c = false := by
  have hlen := length_lineRow_add n cs
  have hnone : (∀ c ∈ cs, isDropped c = false) ↔ dropped cs = 0 := by
    rw [dropped, List.countP_eq_zero]
    simp
  rw [hnone]
  constructor
  · intro hbelow
    by_contra hne
    -- the last caret
    have hlast := hbelow ((lineRow n cs).length + dropped cs - 1)
      ((getElem?_carets_iff n h _).mpr (by omega))
    omega
  · intro hzero j hj
    have hlt := ((getElem?_carets_iff n h j).mp hj).2
    omega

end Carets

theorem exists_rows_markText (commitId text path : String) (n : Nat) (line : List Char)
    (blanks carets : Nat) : ∃ above below, above.length = 3 ∧ below.length = 2 ∧
      (markText commitId text path n line blanks carets).toList = Search.join ['\n']
        (above ++ [lineRow n line, caretsRow title n blanks carets] ++ below) := by
  obtain ⟨location, hrows⟩ := lineRows_eq path title n line blanks carets
  rw [markText, hrows]
  exact ⟨[_, location, barRow n], [barRow n, _], rfl, rfl, String.toList_ofList⟩

/-! ### The message -/

/-- From the white space at its head up to its line feed, a marked line has characters. -/
theorem carets_of_hasMark {t : Bytes} (h : hasMark t = true) :
    max ((Utf8.items (t ++ [newline]).dropLast).length - blanks t) 1 =
      (Utf8.decodeLossyList t).length - blanks t ∧ blanks t < (Utf8.decodeLossyList t).length := by
  obtain ⟨ws, c, d, rest, hsplit, -, -, htake⟩ := exists_head_of_hasMark h
  have hlen : (Utf8.decodeLossyList t).length = (Utf8.items t).length := List.length_map _
  have hblanks : blanks t = ws.length := by rw [blanks, htake]
  have hall := congrArg List.length hsplit
  rw [List.length_append, List.length_cons, List.length_cons] at hall
  rw [List.dropLast_concat]
  omega

theorem hasMark_of_markedBytes {t : Bytes} (h : MarkedBytes (t ++ [newline])) :
    hasMark t = true := by
  obtain ⟨m, hm, hinfix⟩ := h
  rw [← hasMark_append (Or.inr rfl), hasMark, List.any_eq_true]
  exact ⟨m, hm, Search.occurs_iff.mpr hinfix⟩

section Line

variable {source : String} {n : Int} {t : Bytes}
  (hline : rawLine? (Utf8.encode source) n = some (t ++ [newline]))

include hline

theorem exists_line : ∃ k, n = (k + 1 : Nat) ∧
    (cutLines (Utf8.encode source))[k]? = some (t ++ [newline]) ∧ newline ∉ t := by
  unfold rawLine? at hline
  split at hline
  · have htake := newline_not_mem_take (List.mem_of_getElem? hline) (j := t.length) (by simp)
    rw [List.take_left] at htake
    exact ⟨(n - 1).toNat, by omega, hline, htake⟩
  · cases hline

theorem newline_not_mem_line : '\n' ∉ Utf8.decodeLossyList t := by
  obtain ⟨k, -, hcut, hfree⟩ := exists_line hline
  exact newline_not_mem_decodeLossyList hcut (Or.inr rfl) hfree

theorem render_changeOf (hmark : hasMark t = true) (commitId text path id : String) :
    Rendering.plain.render (message commitId text path source (Utf8.encode source)
        (changeOf id (Utf8.encode source) n (t ++ [newline]))) =
      markText commitId text path n.toNat (Utf8.decodeLossyList t) (blanks t)
        ((Utf8.decodeLossyList t).length - blanks t) := by
  obtain ⟨k, rfl, hcut, hfree⟩ := exists_line hline
  have hk : (((k + 1 : Nat) : Int) - 1).toNat = k := by omega
  rw [render_message hcut (Or.inr rfl) hmark hfree, (carets_of_hasMark hmark).1, Int.toNat_natCast]
  rw [changeOf, hk]
  rfl

end Line

/-- The finding for a change whose blob can be read. -/
theorem start_report {h : History} {c : Change} {source : String} {s s' : Session}
    (hread : (h.blob c.blob).start s = (.ok (Utf8.encode source), s')) (rendering : Rendering)
    (commitId text path : String) :
    (report rendering h commitId text path c).start s =
      (.ok (findingOf rendering commitId text path source c), s') := by
  rw [report, Reading.start_bind, hread]
  simp only [Utf8.decode_encode]
  rfl

/-- **Where the carets below a marked line stand.** For a line of a text with a mark and a line feed
there is one change, and its message shows the line and a row of carets below it. There are carets,
and they stand behind the white space at the head of the line and before the end of the row above,
counted with the characters that are not shown. So they stand below that row if and only if all
characters of the line are shown. -/
theorem report_carets {h : History} {id source : String} {s s' : Session}
    (hread : (h.blob id).start s = (.ok (Utf8.encode source), s')) {n : Int} {t : Bytes}
    (hline : rawLine? (Utf8.encode source) n = some (t ++ [newline]))
    (hmark : MarkedBytes (t ++ [newline])) (commitId text path : String) :
    ∃ c f above sourceRow caretRow below, changesForLines id (Utf8.encode source) [n] = [c] ∧
      Marked c ∧ (report .plain h commitId text path c).start s = (.ok f, s') ∧
      f.message.toList = Search.join ['\n'] (above ++ [sourceRow, caretRow] ++ below) ∧
      above.length = 3 ∧ below.length = 2 ∧ '\n' ∉ sourceRow ∧ '\n' ∉ caretRow ∧
      sourceRow = (Nat.repr n.toNat).toList ++ (" | ".toList ++ kept (Utf8.decodeLossyList t)) ∧
      (∃ j : Nat, caretRow[j]? = some '^') ∧
      (∀ j : Nat, caretRow[j]? = some '^' ↔ (Nat.repr n.toNat).length + 3 + blanks t ≤ j ∧
        j < sourceRow.length + dropped (Utf8.decodeLossyList t)) ∧
      ((∀ j : Nat, caretRow[j]? = some '^' → j < sourceRow.length) ↔
        ∀ c ∈ Utf8.decodeLossyList t, isDropped c = false) := by
  have hmark' := hasMark_of_markedBytes hmark
  obtain ⟨-, hblanks⟩ := carets_of_hasMark hmark'
  obtain ⟨above, below, habove, hbelow, hrows⟩ := exists_rows_markText commitId text path n.toNat
    (Utf8.decodeLossyList t) (blanks t) ((Utf8.decodeLossyList t).length - blanks t)
  have hlen := length_lineRow_add n.toNat (Utf8.decodeLossyList t)
  refine ⟨changeOf id (Utf8.encode source) n (t ++ [newline]), _, above, _, _, below, ?_,
    (marked_changeOf_iff id _ n _).mpr hmark, start_report hread .plain commitId text path, ?_,
    habove, hbelow, newline_not_mem_lineRow (newline_not_mem_line hline) n.toNat,
    not_mem_caretsRow (by decide) (by decide) n.toNat _ _, rfl, ?_,
    getElem?_carets_iff n.toNat hblanks, forall_carets_lt_iff n.toNat hblanks⟩
  · rw [changesForLines_singleton, hline]
    rfl
  · rw [← hrows, ← render_changeOf hline hmark' commitId text path id]
    rfl
  · exact ⟨margin n.toNat + blanks t, (getElem?_carets_iff n.toNat hblanks _).mpr (by omega)⟩

/-! ### A carriage return -/

/-- A history with one blob. -/
def oneBlob (text : String) : History := .memory [] [("b", Utf8.encode text)]

theorem start_blob_oneBlob (text : String) :
    ((oneBlob text).blob "b").start {} = (.ok (Utf8.encode text), { reads := ["b"] }) := rfl

/-- White space of two bytes stands in front of the mark. -/
theorem report_carets_indented : MarkedBytes (Utf8.encode "\u00a0// TODO é" ++ [newline]) ∧
    ∃ c f above sourceRow caretRow below,
      changesForLines "b" (Utf8.encode "\u00a0// TODO é\n") [1] = [c] ∧
      ((report .plain (oneBlob "\u00a0// TODO é\n") "c" "m" "a.cs" c).start {}).1 = .ok f ∧
      f.message.toList = Search.join ['\n'] (above ++ [sourceRow, caretRow] ++ below) ∧
      sourceRow = "1 | \u00a0// TODO é".toList ∧
      ∀ j : Nat, caretRow[j]? = some '^' → j < sourceRow.length := by
  have hmark : MarkedBytes (Utf8.encode "\u00a0// TODO é" ++ [newline]) :=
    ⟨"// TODO", by decide, Utf8.encode "\u00a0", Utf8.encode " é\n", by decide⟩
  obtain ⟨c, f, above, sourceRow, caretRow, below, hc, -, hstart, hmessage, -, -, -, -,
    hrow, -, -, hiff⟩ :=
    report_carets (start_blob_oneBlob "\u00a0// TODO é\n") (n := 1)
      (t := Utf8.encode "\u00a0// TODO é") (by decide) hmark "c" "m" "a.cs"
  have hshown : ((Utf8.decodeLossyList (Utf8.encode "\u00a0// TODO é")).all
      (!isDropped ·)) = true := by decide +kernel
  refine ⟨hmark, c, f, above, sourceRow, caretRow, below, hc, congrArg Prod.fst hstart, hmessage,
    hrow.trans (by decide +kernel), hiff.mpr fun c hc => ?_⟩
  simpa using List.all_eq_true.mp hshown c hc

/-- In a line that ends with a carriage return and a line feed, the last caret stands behind the
row. -/
theorem report_carets_carriageReturn : MarkedBytes (Utf8.encode "// TODO\r\n") ∧
    ∃ c f above below, changesForLines "b" (Utf8.encode "// TODO\r\n") [1] = [c] ∧
      ((report .plain (oneBlob "// TODO\r\n") "c" "m" "a.cs" c).start {}).1 = .ok f ∧
      f.message.toList = Search.join ['\n'] (above ++
        ["1 | // TODO".toList, ("  | ^^^^^^^^ " ++ title).toList] ++ below) ∧
      above.length = 3 ∧ below.length = 2 ∧
      ("  | ^^^^^^^^ " ++ title).toList["1 | // TODO".toList.length]? = some '^' := by
  have hline : rawLine? (Utf8.encode "// TODO\r\n") 1 =
      some (Utf8.encode "// TODO\r" ++ [newline]) := by decide
  have hmark : hasMark (Utf8.encode "// TODO\r") = true := by decide
  have hchars : Utf8.decodeLossyList (Utf8.encode "// TODO\r") = "// TODO\r".toList := by
    decide +kernel
  have hblanks : blanks (Utf8.encode "// TODO\r") = 0 := by decide +kernel
  have hrow : lineRow 1 "// TODO\r".toList = "1 | // TODO".toList := by decide
  have hcarets : caretsRow title 1 0 8 = ("  | ^^^^^^^^ " ++ title).toList := by decide
  have hrender := render_changeOf hline hmark "c" "m" "a.cs" "b"
  obtain ⟨above, below, habove, hbelow, hrows⟩ :=
    exists_rows_markText "c" "m" "a.cs" 1 "// TODO\r".toList 0 8
  rw [hrow, hcarets] at hrows
  refine ⟨⟨"// TODO", by decide, [], Utf8.encode "\r\n", by decide⟩,
    changeOf "b" (Utf8.encode "// TODO\r\n") 1 (Utf8.encode "// TODO\r" ++ [newline]), _, above,
    below, ?_, congrArg Prod.fst (start_report (start_blob_oneBlob _) .plain "c" "m" "a.cs"), ?_,
    habove, hbelow, by decide⟩
  · rw [changesForLines_singleton, hline]
    rfl
  · rw [← hrows]
    refine (congrArg String.toList hrender).trans ?_
    rw [hchars, hblanks]
    rfl

end HouseRules.CommittedTodos
