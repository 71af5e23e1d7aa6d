import HouseRules.Check.CommittedTodos
import HouseRules.Proofs.Diff.Patch
import HouseRules.Proofs.Snippet.OneLine

/-! # The message on a marked line

A line of a text that holds a mark is shown with its number, from its first character that is no
white space on (`render_message`). The mark itself is no white space, so behind the first such
character there is another, and the last byte of the line can be left out of the marked range. -/

namespace HouseRules.CommittedTodos

open Bytes Styled

/-! ### Lines of a text -/

theorem cutLines_append_of_not_mem {l : Bytes} (hl : newline ∉ l) (hne : l ≠ []) (r : Bytes) :
    cutLines (l ++ r) = (l ++ (cutLines r).headD []) :: (cutLines r).tail := by
  induction l with
  | nil => exact absurd rfl hne
  | cons x l ih =>
    rw [List.mem_cons, not_or] at hl
    rw [List.cons_append, cutLines_cons_of_ne (Ne.symm hl.1)]
    by_cases h : l = []
    · rw [h]
      rfl
    · rw [ih hl.2 h]
      rfl

/-- **The lines of a text are texts.** -/
theorem exists_encodeList_of_mem_cutLines : ∀ {cs : List Char} {l : Bytes},
    l ∈ cutLines (Utf8.encodeList cs) → ∃ ks, l = Utf8.encodeList ks
  | [], l, h => by cases h
  | c :: cs, l, h => by
    rw [Utf8.encodeList_cons] at h
    by_cases hc : c = '\n'
    · rw [hc, Utf8.encodeChar_newline, List.singleton_append, cutLines_newline_cons,
        List.mem_cons] at h
      rcases h with rfl | h
      · exact ⟨['\n'], by decide⟩
      · exact exists_encodeList_of_mem_cutLines h
    · rw [cutLines_append_of_not_mem (Utf8.newline_not_mem_encodeChar hc)
        String.utf8EncodeChar_ne_nil, List.mem_cons] at h
      rcases h with rfl | h
      · cases hr : cutLines (Utf8.encodeList cs) with
        | nil => exact ⟨[c], by simp⟩
        | cons m ms =>
          have hm : m ∈ cutLines (Utf8.encodeList cs) := by rw [hr]; exact List.mem_cons_self
          obtain ⟨ks, hks⟩ := exists_encodeList_of_mem_cutLines hm
          exact ⟨c :: ks, by rw [List.headD_cons, hks, Utf8.encodeList_cons]⟩
      · exact exists_encodeList_of_mem_cutLines (List.mem_of_mem_tail h)

/-- A line of a text without its end, decoded and encoded. -/
theorem encodeList_decodeLossyList {t e : Bytes} {ks : List Char} (he : e = [] ∨ e = [newline])
    (h : t ++ e = Utf8.encodeList ks) : Utf8.encodeList (Utf8.decodeLossyList t) = t := by
  have hcut : ∀ y ∈ e.head?, y.toNat < 128 := by
    rcases he with rfl | rfl <;> decide +kernel
  have hks : ks = Utf8.decodeLossyList t ++ Utf8.decodeLossyList e := by
    rw [← Utf8.decodeLossyList_append hcut, h, Utf8.decodeLossyList_encodeList]
  have hend : Utf8.encodeList (Utf8.decodeLossyList e) = e := by
    rcases he with rfl | rfl <;> decide +kernel
  rw [hks, Utf8.encodeList_append, hend] at h
  exact (List.append_cancel_right h).symm

/-! ### Marks -/

/-- The bytes hold a mark. -/
def hasMark (line : Bytes) : Bool := marks.any fun m => Search.occurs (Bytes.ofAscii m) line

/-- A mark holds two characters of which the first is no white space, and no line feed. -/
theorem marks_spec : ∀ m ∈ marks, (∀ c ∈ m.toList, c.toNat < 128) ∧ m.toList ≠ [] ∧
    newline ∉ Bytes.ofAscii m ∧ m.toList.take 2 = ['/', '/'] := by
  have h : (marks.all fun m => m.toList.all (·.toNat < 128) && (m.toList ≠ [] &&
      (newline ∉ Bytes.ofAscii m && m.toList.take 2 = ['/', '/']))) = true := by decide
  simpa only [List.all_eq_true, Bool.and_eq_true, decide_eq_true_eq] using h

theorem holdsMark_decodeLossy (line : Bytes) :
    holdsMark (Utf8.decodeLossy line) = hasMark line := by
  have hmark : ∀ m ∈ marks, Search.occurs m.toList (Utf8.decodeLossy line).toList =
      Search.occurs (Bytes.ofAscii m) line := by
    intro m hm
    obtain ⟨hascii, hne, -, -⟩ := marks_spec m hm
    rw [Utf8.decodeLossy, String.toList_ofList]
    exact Utf8.occurs_decodeLossyList hne hascii line
  rw [holdsMark, hasMark, Bool.eq_iff_iff, List.any_eq_true, List.any_eq_true]
  constructor
  · rintro ⟨m, hm, h⟩
    exact ⟨m, hm, hmark m hm ▸ h⟩
  · rintro ⟨m, hm, h⟩
    exact ⟨m, hm, (hmark m hm).symm ▸ h⟩

theorem infix_of_infix_concat {x : UInt8} {word t : Bytes} (hx : x ∉ word)
    (h : word <:+: t ++ [x]) : word <:+: t := by
  obtain ⟨a, b, hab⟩ := h
  rcases List.eq_nil_or_concat b with rfl | ⟨b, y, rfl⟩
  · rcases List.eq_nil_or_concat word with rfl | ⟨word, y, rfl⟩
    · exact List.nil_infix
    · rw [List.append_nil, List.concat_eq_append, ← List.append_assoc] at hab
      have hy := List.append_inj_right' hab rfl
      cases hy
      exact absurd (by simp) hx
  · rw [List.concat_eq_append, ← List.append_assoc] at hab
    exact ⟨a, b, List.append_inj_left' hab rfl⟩

/-- The end of a line is no part of a mark. -/
theorem hasMark_append {e : Bytes} (he : e = [] ∨ e = [newline]) (t : Bytes) :
    hasMark (t ++ e) = hasMark t := by
  rcases he with rfl | rfl
  · rw [List.append_nil]
  · rw [hasMark, hasMark, Bool.eq_iff_iff, List.any_eq_true, List.any_eq_true]
    constructor
    · rintro ⟨m, hm, h⟩
      obtain ⟨-, -, hn, -⟩ := marks_spec m hm
      exact ⟨m, hm, Search.occurs_iff.mpr (infix_of_infix_concat hn (Search.occurs_iff.mp h))⟩
    · rintro ⟨m, hm, h⟩
      exact ⟨m, hm, Search.occurs_of_infix (List.prefix_append t _).isInfix h⟩

/-- Where white space at the head ends, if some other character with a successor follows it. -/
theorem exists_takeWhile_eq {q : Char → Bool} {x y : Char} (hx : q x = false) (r : List Char) :
    ∀ pre : List Char, ∃ ws c d rest, pre ++ x :: y :: r = ws ++ c :: d :: rest ∧
      (∀ w ∈ ws, q w = true) ∧ q c = false ∧ (pre ++ x :: y :: r).takeWhile q = ws
  | [] => ⟨[], x, y, r, rfl, by simp, hx, by simp [hx]⟩
  | z :: pre => by
    by_cases hz : q z = true
    · obtain ⟨ws, c, d, rest, heq, hws, hc, htake⟩ := exists_takeWhile_eq hx r pre
      refine ⟨z :: ws, c, d, rest, by rw [List.cons_append, heq, List.cons_append], ?_, hc, ?_⟩
      · exact List.forall_mem_cons.mpr ⟨hz, hws⟩
      · rw [List.cons_append, List.takeWhile_cons_of_pos hz, htake]
    · rw [Bool.not_eq_true] at hz
      obtain ⟨d, rest, hrest⟩ := List.exists_cons_of_ne_nil (l := pre ++ x :: y :: r) (by simp)
      exact ⟨[], z, d, rest, by rw [List.cons_append, hrest, List.nil_append], by simp, hz,
        by simp [hz]⟩

/-- **The head of a marked line**: white space, another character, and more behind it. -/
theorem exists_head_of_hasMark {t : Bytes} (h : hasMark t = true) :
    ∃ ws c d rest, Utf8.decodeLossyList t = ws ++ c :: d :: rest ∧
      (∀ w ∈ ws, Text.isBlank w = true) ∧ Text.isBlank c = false ∧
      (Utf8.decodeLossyList t).takeWhile Text.isBlank = ws := by
  obtain ⟨m, hm, ho⟩ := List.any_eq_true.mp h
  obtain ⟨hascii, hne, -, hhead⟩ := marks_spec m hm
  have ho' : Search.occurs m.toList (Utf8.decodeLossyList t) = true := by
    rw [Utf8.occurs_decodeLossyList hne hascii]
    exact ho
  obtain ⟨pre, post, hp⟩ := Search.occurs_iff.mp ho'
  have hsplit : m.toList = '/' :: '/' :: m.toList.drop 2 := by
    rw [← List.take_append_drop 2 m.toList, hhead]
    rfl
  rw [hsplit, List.append_assoc, List.cons_append, List.cons_append] at hp
  rw [← hp]
  exact exists_takeWhile_eq (by decide) _ pre

/-! ### The range to show -/

theorem leadingBlank?_of_slice {content : Bytes} {start stop : Int} {c : Char} {r : Bytes}
    (h : content.slice start stop = String.utf8EncodeChar c ++ r) :
    leadingBlank? content start stop = if Text.isBlank c then some c else none := by
  have hdec : Utf8.decodeIgnoringList (content.slice start stop) =
      c :: Utf8.decodeIgnoringList r := by
    have hone := Utf8.decodeIgnoringList_encodeList_append [c] r
    rwa [Utf8.encodeList_cons, Utf8.encodeList_nil, List.append_nil, ← h] at hone
  rw [leadingBlank?, hdec]

/-- The start moves over the white space, and no further. -/
theorem skipBlanks_eq {content : Bytes} {stop : Nat} {c : Char} {r : Bytes}
    (hc : Text.isBlank c = false) : ∀ {ws : List Char} {start : Nat},
    (∀ w ∈ ws, Text.isBlank w = true) →
    content.slice (start : Int) (stop : Int) =
      Utf8.encodeList ws ++ (String.utf8EncodeChar c ++ r) →
    skipBlanks content (start : Int) (stop : Int) =
      ((start + (Utf8.encodeList ws).length : Nat) : Int)
  | ws, start, hws, h => by
    have hlt : (start : Int) < (stop : Int) := by
      by_contra hge
      have hlen := congrArg List.length h
      rw [slice_natCast, List.length_drop, List.length_take, List.length_append, List.length_append,
        String.length_utf8EncodeChar] at hlen
      have := c.utf8Size_pos
      omega
    rw [skipBlanks, if_pos hlt]
    cases ws with
    | nil =>
      rw [Utf8.encodeList_nil, List.nil_append] at h
      rw [leadingBlank?_of_slice h, hc]
      rfl
    | cons w ws =>
      rw [Utf8.encodeList_cons, List.append_assoc] at h
      have hw : Text.isBlank w = true := hws w List.mem_cons_self
      have hrest : content.slice ((start + w.utf8Size : Nat) : Int) (stop : Int) =
          Utf8.encodeList ws ++ (String.utf8EncodeChar c ++ r) := by
        have hdrop := congrArg (List.drop w.utf8Size) h
        rwa [slice_natCast, List.drop_drop, ← slice_natCast, ← String.length_utf8EncodeChar w,
          List.drop_left, String.length_utf8EncodeChar] at hdrop
      have ih := skipBlanks_eq hc (fun v hv => hws v (List.mem_cons_of_mem w hv)) hrest
      rw [leadingBlank?_of_slice h, hw]
      refine (congrArg (fun i => skipBlanks content i (stop : Int)) ?_).trans (ih.trans ?_)
      · exact (Int.natCast_add start w.utf8Size).symm
      · rw [Utf8.encodeList_cons, List.length_append, String.length_utf8EncodeChar, Nat.add_assoc]

/-! ### A marked line -/

/-- The number of white-space characters at the head of a line. -/
def blanks (t : Bytes) : Nat := ((Utf8.decodeLossyList t).takeWhile Text.isBlank).length

/-- The message on line `n` of a file, `line` without its line feed. The line is shown as it is, but
for the characters that no text keeps, and below it `carets` carets, behind `blanks` blanks. -/
def markText (commitId text path : String) (n : Nat) (line : List Char) (blanks carets : Nat) :
    String :=
  String.ofList <| Search.join ['\n'] <|
    ("error: " ++ title).toList :: Snippet.lineRows path title n line blanks carets ++
      [List.replicate (Nat.repr n).length ' ' ++
        (" = help: consider removing all TODOs and FIXMEs from commit ".toList ++
          (kept commitId.toList ++ (" with message ".toList ++
            kept (Json.literal .unicode text).toList)))]

theorem chars_titleRow (commitId text path source : String) (content : Bytes) (c : Change) :
    (message commitId text path source content c).titleRow.chars = ("error: " ++ title).toList :=
  (by decide : StyledText.chars ([span "error" errorStyle, span ": " Style.bold] ++ styledTitle) =
    ("error: " ++ title).toList)

theorem chars_help (commitId text : String) : StyledText.chars (help commitId text) =
    "consider removing all TODOs and FIXMEs from commit ".toList ++ (kept commitId.toList ++
      (" with message ".toList ++ kept (Json.literal .unicode text).toList)) := by
  have hfront : kept "consider removing all ".toList ++ (kept "TODOs".toList ++
      (kept " and ".toList ++ (kept "FIXMEs".toList ++ kept " from commit ".toList))) =
      "consider removing all TODOs and FIXMEs from commit ".toList := by decide
  have hwith : kept " with message ".toList = " with message ".toList := by decide
  rw [help, ← hfront, ← hwith]
  simp only [StyledText.chars_span_cons, StyledText.chars_bare_cons, StyledText.chars_nil,
    List.append_assoc, List.append_nil]

section Line

variable {source : String} {k : Nat} {t e : Bytes}
  (hline : (cutLines (Utf8.encode source))[k]? = some (t ++ e))
  (he : e = [] ∨ e = [newline]) (hm : hasMark t = true)

include hline he

theorem newline_not_mem_decodeLossyList (hn : newline ∉ t) : '\n' ∉ Utf8.decodeLossyList t := by
  obtain ⟨ks, hks⟩ := exists_encodeList_of_mem_cutLines (List.mem_of_getElem? hline)
  intro hc
  refine hn ?_
  rw [← encodeList_decodeLossyList he hks]
  exact List.mem_flatMap.mpr ⟨'\n', hc, by decide⟩

/-- The line is shown without its end. -/
theorem kept_line (hn : newline ∉ t) :
    kept (Search.dropEndWhile (fun c => c == '\r' || c == '\n') (Utf8.decodeLossyList (t ++ e))) =
      kept (Utf8.decodeLossyList t) := by
  have hmem := newline_not_mem_decodeLossyList hline he hn
  rcases he with rfl | rfl
  · rw [List.append_nil, kept_dropEndWhile hmem]
  · have hend : Utf8.decodeLossyList [newline] = ['\n'] := by decide +kernel
    rw [Utf8.decodeLossyList_append (by decide +kernel), hend,
      Search.dropEndWhile_append_of_pos (by decide),
      kept_dropEndWhile hmem]

include hm

/-- **The range to show of a marked line** starts behind its white space and leaves its last byte
out. -/
theorem exists_displayRange : ∃ i, i < (t ++ e).length - 1 ∧
    (Utf8.items ((t ++ e).take i)).length = blanks t ∧
    displayRange (Utf8.encode source) ⟨(LineIndex.offset source k : Nat),
        ((LineIndex.offset source k + (t ++ e).length : Nat) : Int)⟩ =
      ⟨((LineIndex.offset source k + i : Nat) : Int),
        ((LineIndex.offset source k + ((t ++ e).length - 1) : Nat) : Int)⟩ := by
  obtain ⟨ks, hks⟩ := exists_encodeList_of_mem_cutLines (List.mem_of_getElem? hline)
  have ht := encodeList_decodeLossyList he hks
  obtain ⟨ws, c, d, rest, hsplit, hws, hc, htake⟩ := exists_head_of_hasMark hm
  have hl : t ++ e = Utf8.encodeList ws ++ (String.utf8EncodeChar c ++
      (String.utf8EncodeChar d ++ (Utf8.encodeList rest ++ e))) := by
    rw [← ht, hsplit]
    simp only [Utf8.encodeList_append, Utf8.encodeList_cons, List.append_assoc]
  have hd := d.utf8Size_pos
  have hc' := c.utf8Size_pos
  have hlen := congrArg List.length hl
  simp only [List.length_append, String.length_utf8EncodeChar] at hlen
  refine ⟨(Utf8.encodeList ws).length, ?_, ?_, ?_⟩
  · rw [List.length_append]
    omega
  · rw [hl, List.take_left, Utf8.items_encodeList, List.length_map, blanks, htake]
  · have hslice : slice (Utf8.encode source) ((LineIndex.offset source k : Nat) : Int)
        ((LineIndex.offset source k + ((t ++ e).length - 1) : Nat) : Int) =
        Utf8.encodeList ws ++ (String.utf8EncodeChar c ++
          (String.utf8EncodeChar d ++ (Utf8.encodeList rest ++ e)).dropLast) := by
      have hpart := slice_line (i := 0) hline (Nat.sub_le (t ++ e).length 1)
      rw [Nat.add_zero, List.drop_zero, ← List.dropLast_eq_take] at hpart
      refine hpart.trans ?_
      rw [hl, List.dropLast_append_of_ne_nil (by simp), List.dropLast_append_of_ne_nil (by simp)]
    have hstop : ((LineIndex.offset source k + (t ++ e).length : Nat) : Int) - 1 =
        ((LineIndex.offset source k + ((t ++ e).length - 1) : Nat) : Int) := by
      rw [List.length_append]
      omega
    rw [displayRange]
    simp only [hstop]
    rw [skipBlanks_eq hc hws hslice]

/-- **The message on a marked line.** -/
theorem render_message (hn : newline ∉ t) (commitId text path : String) {c : Change}
    (hrange : c.range = ⟨(LineIndex.offset source k : Nat),
      ((LineIndex.offset source k + (t ++ e).length : Nat) : Int)⟩) :
    Rendering.plain.render (message commitId text path source (Utf8.encode source) c) =
      markText commitId text path (k + 1) (Utf8.decodeLossyList t) (blanks t)
        (max ((Utf8.items (t ++ e).dropLast).length - blanks t) 1) := by
  obtain ⟨i, hi, hblanks, hdisplay⟩ := exists_displayRange hline he hm
  rw [← hrange] at hdisplay
  have hmarks : Snippet.MarksLine { source, origin := path
                                    range := displayRange (Utf8.encode source) c.range
                                    label := title } k (t ++ e) i ((t ++ e).length - 1) :=
    ⟨rfl, hline, hdisplay, hi, Nat.sub_le _ _⟩
  have hrows := Snippet.lineRows_congr path title (k + 1) (kept_line hline he hn) (blanks t)
    (max ((Utf8.items (t ++ e).dropLast).length - blanks t) 1)
  rw [hmarks.render_eq (by decide : title ≠ "") rfl rfl, hblanks, ← List.dropLast_eq_take, hrows,
    chars_titleRow, chars_help, markText]
  rfl

end Line

end HouseRules.CommittedTodos
