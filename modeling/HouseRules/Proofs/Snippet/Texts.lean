import HouseRules.Proofs.Snippet.OneLine
import HouseRules.Proofs.Styled.Unescaped

/-! # The texts that a message shows

A message is put together from words of its own and from texts that come from elsewhere. A tab or an
escape character can only come with the latter: with the origin of a snippet, with a source line
that is shown, or with the title or the help (`Message.mem_text_iff`). Without them the message that
is written with escape sequences says the same as the one without (`unescaped_render`), and is the
same on a screen that finds nothing to trim in it (`trimmed_render`). -/

namespace HouseRules

open Styled

/-! ### Characters that are not shown as they are -/

/-- A tab or an escape character. -/
def Shifty (c : Char) : Prop := c = '\t' ∨ c = StyledText.escape

instance (c : Char) : Decidable (Shifty c) := inferInstanceAs (Decidable (_ ∨ _))

namespace Shifty

variable {c : Char}

theorem not_isDropped (h : Shifty c) : isDropped c = false := by
  rcases h with rfl | rfl <;> decide

theorem not_mem_repr (h : Shifty c) (n : Nat) : c ∉ (Nat.repr n).toList := by
  refine Styled.not_mem_repr ?_ n
  rcases h with rfl | rfl <;> decide

theorem not_mem_repeated (h : Shifty c) {d : Char} (hd : ¬ Shifty d) (n : Nat) :
    c ∉ (repeated n d).toList := by
  intro hc
  rw [repeated, String.toList_ofList] at hc
  exact hd ((List.mem_replicate.mp hc).2 ▸ h)

/-- Words without such a character. -/
theorem not_mem_of_all (h : Shifty c) {cs : List Char}
    (hall : cs.all (fun d => d != '\t' && d != StyledText.escape) = true) : c ∉ cs := by
  intro hc
  have hd := List.all_eq_true.mp hall c hc
  rcases h with rfl | rfl <;> exact absurd hd (by decide)

theorem mem_span_cons (h : Shifty c) (text : String) (style : Style) (t : StyledText) :
    c ∈ StyledText.chars (span text style :: t) ↔ c ∈ text.toList ∨ c ∈ StyledText.chars t := by
  rw [StyledText.chars_span_cons, List.mem_append, kept, List.mem_filter, h.not_isDropped]
  simp

theorem mem_bare_cons (h : Shifty c) (text : String) (t : StyledText) :
    c ∈ StyledText.chars (bare text :: t) ↔ c ∈ text.toList ∨ c ∈ StyledText.chars t :=
  h.mem_span_cons text .plain t

theorem mem_join_iff (h : Shifty c) : ∀ rows : List StyledText,
    c ∈ StyledText.chars (Search.join [bare "\n"] rows) ↔ ∃ r ∈ rows, c ∈ StyledText.chars r
  | [] => by simp [Search.join]
  | [r] => by simp [Search.join]
  | r :: r' :: rows => by
    have hfeed : c ∉ "\n".toList := h.not_mem_of_all (by decide)
    rw [Search.join, StyledText.chars_append, StyledText.chars_append, List.mem_append,
      List.mem_append, mem_join_iff h (r' :: rows), h.mem_bare_cons]
    simp only [hfeed, StyledText.chars_nil, List.not_mem_nil, or_false, List.mem_cons,
      exists_eq_or_imp]

end Shifty

/-! ### Snippets -/

namespace Snippet

/-- The source lines that a snippet shows. -/
def shownLines (s : Snippet) : List String := s.layout.shown.map s.layout.index.lineText

namespace Layout

variable {c : Char} {l : Layout}

theorem mem_locationRow_iff (h : Shifty c) (origin : String) :
    c ∈ StyledText.chars (l.locationRow origin) ↔ c ∈ origin.toList := by
  have hpad : c ∉ l.pad.toList := h.not_mem_repeated (by decide) _
  have harrow : c ∉ "--> ".toList := h.not_mem_of_all (by decide)
  have hcolon : c ∉ ":".toList := h.not_mem_of_all (by decide)
  have hnat : ∀ n : Nat, c ∉ (toString n).toList := h.not_mem_repr
  have htoString : ∀ text : String, toString text = text := fun _ => rfl
  rw [locationRow, h.mem_span_cons, h.mem_bare_cons]
  simp only [String.toList_append, List.mem_append, htoString, hpad, harrow, hcolon, hnat,
    StyledText.chars_nil, List.not_mem_nil, or_false, false_or]

theorem not_mem_barRow (h : Shifty c) : c ∉ StyledText.chars l.barRow := by
  have hpad : c ∉ l.pad.toList := h.not_mem_repeated (by decide) _
  have hbar : c ∉ " |".toList := h.not_mem_of_all (by decide)
  rw [barRow, h.mem_span_cons]
  simp only [String.toList_append, List.mem_append, hpad, hbar, StyledText.chars_nil,
    List.not_mem_nil, or_false, not_false_eq_true]

theorem mem_sourceRow_iff (h : Shifty c) (line : Nat) :
    c ∈ StyledText.chars (l.sourceRow line) ↔ c ∈ (l.index.lineText line).toList := by
  have hnumber : c ∉ (l.number line).toList := by
    rw [number, String.toList_append, List.mem_append, not_or]
    exact ⟨h.not_mem_repeated (by decide) _, h.not_mem_repr _⟩
  have hbar : c ∉ " | ".toList := h.not_mem_of_all (by decide)
  rw [sourceRow, h.mem_span_cons, h.mem_bare_cons]
  simp only [String.toList_append, List.mem_append, hnumber, hbar, StyledText.chars_nil,
    List.not_mem_nil, or_false, false_or]

theorem not_mem_caretRow (h : Shifty c) {label : String} (hlabel : c ∉ label.toList) (line : Nat) :
    c ∉ StyledText.chars (l.caretRow label line) := by
  have hpad : c ∉ l.pad.toList := h.not_mem_repeated (by decide) _
  have hbar : c ∉ " | ".toList := h.not_mem_of_all (by decide)
  have hblank : c ∉ " ".toList := h.not_mem_of_all (by decide)
  have hblanks : ∀ n, c ∉ (repeated n ' ').toList := h.not_mem_repeated (by decide)
  have hcarets : ∀ n, c ∉ (repeated n '^').toList := h.not_mem_repeated (by decide)
  rw [caretRow, StyledText.chars_append, List.mem_append, h.mem_span_cons, h.mem_bare_cons,
    h.mem_span_cons]
  simp only [String.toList_append, List.mem_append, hpad, hbar, hblanks, hcarets,
    StyledText.chars_nil, List.not_mem_nil, or_false, false_or]
  split
  · rw [h.mem_span_cons]
    simp only [String.toList_append, List.mem_append, hblank, hlabel, StyledText.chars_nil,
      List.not_mem_nil, or_false, not_false_eq_true]
  · exact List.not_mem_nil

theorem mem_rows_iff (h : Shifty c) {label : String} (hlabel : c ∉ label.toList) (line : Nat) :
    (∃ r ∈ l.rows label line, c ∈ StyledText.chars r) ↔ c ∈ (l.index.lineText line).toList := by
  have hcaret := l.not_mem_caretRow h hlabel line
  rw [rows]
  split <;> simp [mem_sourceRow_iff h, hcaret]

end Layout

/-- A tab or an escape character in a row comes from the origin or from a source line. -/
theorem mem_rows_iff {c : Char} (h : Shifty c) {s : Snippet} (hlabel : c ∉ s.label.toList) :
    (∃ r ∈ s.rows, c ∈ StyledText.chars r) ↔
      c ∈ s.origin.toList ∨ ∃ text ∈ s.shownLines, c ∈ text.toList := by
  have hlines : (∃ r ∈ s.layout.shown.flatMap (s.layout.rows s.label), c ∈ StyledText.chars r) ↔
      ∃ text ∈ s.shownLines, c ∈ text.toList := by
    simp only [shownLines, List.mem_flatMap, List.mem_map, exists_exists_and_eq_and,
      ← Layout.mem_rows_iff h hlabel]
    exact ⟨fun ⟨r, ⟨line, hline, hr⟩, hc⟩ => ⟨line, hline, r, hr, hc⟩,
      fun ⟨line, hline, r, hr, hc⟩ => ⟨r, ⟨line, hline, hr⟩, hc⟩⟩
  rw [← hlines, rows]
  simp only [List.mem_append, List.mem_cons, List.not_mem_nil, or_false, or_and_right, exists_or,
    exists_eq_left, Layout.mem_locationRow_iff h, Layout.not_mem_barRow h]

end Snippet

/-! ### Messages -/

namespace Message

/-- **A tab or an escape character in a message** comes from its title, from its help, or from the
origin or a source line of a snippet. -/
theorem mem_text_iff {c : Char} (h : Shifty c) {m : Message}
    (hlabel : ∀ s ∈ m.snippets, c ∉ s.label.toList) :
    c ∈ StyledText.chars m.text ↔ c ∈ StyledText.chars m.title ∨
      (∃ s ∈ m.snippets, c ∈ s.origin.toList ∨ ∃ text ∈ s.shownLines, c ∈ text.toList) ∨
      ∃ t, m.help = some t ∧ c ∈ StyledText.chars t := by
  have htitle : c ∈ StyledText.chars m.titleRow ↔ c ∈ StyledText.chars m.title := by
    have herror : c ∉ "error".toList := h.not_mem_of_all (by decide)
    have hcolon : c ∉ ": ".toList := h.not_mem_of_all (by decide)
    rw [titleRow, List.cons_append, List.cons_append, List.nil_append, h.mem_span_cons,
      h.mem_span_cons]
    simp only [herror, hcolon, false_or]
  have hsnippets : (∃ r ∈ m.snippets.flatMap Snippet.rows, c ∈ StyledText.chars r) ↔
      ∃ s ∈ m.snippets, c ∈ s.origin.toList ∨ ∃ text ∈ s.shownLines, c ∈ text.toList := by
    simp only [List.mem_flatMap]
    constructor
    · rintro ⟨r, ⟨s, hs, hr⟩, hc⟩
      exact ⟨s, hs, (Snippet.mem_rows_iff h (hlabel s hs)).mp ⟨r, hr, hc⟩⟩
    · rintro ⟨s, hs, hc⟩
      obtain ⟨r, hr, hc⟩ := (Snippet.mem_rows_iff h (hlabel s hs)).mpr hc
      exact ⟨r, ⟨s, hs, hr⟩, hc⟩
  have hhelp : ∀ pad : String, c ∉ pad.toList → ((∃ r ∈ (m.help.map (helpRow pad)).toList,
      c ∈ StyledText.chars r) ↔ ∃ t, m.help = some t ∧ c ∈ StyledText.chars t) := by
    intro pad hpad
    have hequals : c ∉ " = ".toList := h.not_mem_of_all (by decide)
    have hword : c ∉ "help".toList := h.not_mem_of_all (by decide)
    have hcolon : c ∉ ": ".toList := h.not_mem_of_all (by decide)
    cases m.help with
    | none => simp
    | some t =>
      have hrow : c ∈ StyledText.chars (helpRow pad t) ↔ c ∈ StyledText.chars t := by
        rw [helpRow, List.cons_append, List.cons_append, List.cons_append, List.nil_append,
          h.mem_span_cons, h.mem_span_cons, h.mem_bare_cons]
        simp only [String.toList_append, List.mem_append, hpad, hequals, hword, hcolon, false_or]
      simp [hrow]
  have hpad : c ∉ ((m.snippets.getLast?.map Snippet.pad).getD "").toList := by
    cases m.snippets.getLast? with
    | none => exact h.not_mem_of_all (by decide)
    | some s => exact h.not_mem_repeated (by decide) _
  rw [text, h.mem_join_iff, rows, ← hsnippets, ← hhelp _ hpad, ← htitle]
  simp only [List.cons_append, List.mem_cons, List.mem_append, or_and_right, exists_or,
    exists_eq_left]

end Message

/-! ### Both renderings -/

/-- The text has no characters that are dropped, as is so for what is made of spans of texts. -/
def Kept (t : StyledText) : Prop := ∀ c ∈ StyledText.chars t, isDropped c = false

theorem kept_nil : Kept [] := fun c hc => by cases hc

theorem Kept.span_cons {t : StyledText} (h : Kept t) (text : String) (style : Style) :
    Kept (span text style :: t) := by
  intro c hc
  rw [StyledText.chars_span_cons, List.mem_append, kept, List.mem_filter] at hc
  rcases hc with ⟨-, hc⟩ | hc
  · simpa using hc
  · exact h c hc

theorem Kept.bare_cons {t : StyledText} (h : Kept t) (text : String) : Kept (bare text :: t) :=
  h.span_cons text .plain

theorem Kept.append {t u : StyledText} (ht : Kept t) (hu : Kept u) : Kept (t ++ u) := by
  intro c hc
  rw [StyledText.chars_append, List.mem_append] at hc
  exact hc.elim (ht c) (hu c)

theorem Snippet.kept_of_mem_rows {s : Snippet} {r : StyledText} (hr : r ∈ s.rows) : Kept r := by
  simp only [Snippet.rows, List.mem_append, List.mem_cons, List.not_mem_nil, or_false,
    List.mem_flatMap] at hr
  rcases hr with ((rfl | rfl) | ⟨line, -, hr⟩) | rfl
  · exact (kept_nil.bare_cons _).span_cons _ _
  · exact kept_nil.span_cons _ _
  · have hsource : Kept (s.layout.sourceRow line) := (kept_nil.bare_cons _).span_cons _ _
    have hcaret : Kept (s.layout.caretRow s.label line) := by
      refine Kept.append (((kept_nil.span_cons _ _).bare_cons _).span_cons _ _) ?_
      split
      · exact kept_nil.span_cons _ _
      · exact kept_nil
    rw [Layout.rows] at hr
    split at hr <;> simp only [List.mem_cons, List.not_mem_nil, or_false] at hr
    · rcases hr with rfl | rfl
      · exact hsource
      · exact hcaret
    · rw [hr]
      exact hsource
  · exact kept_nil.span_cons _ _

theorem Message.kept_text {m : Message} (htitle : Kept m.title)
    (hhelp : ∀ t, m.help = some t → Kept t) : Kept m.text := by
  have hrows : ∀ r ∈ m.rows, Kept r := by
    intro r hr
    simp only [Message.rows, List.cons_append, List.mem_cons, List.mem_append, List.mem_flatMap,
      Option.mem_toList, Option.map_eq_some_iff] at hr
    rcases hr with rfl | ⟨s, -, hr⟩ | ⟨t, ht, rfl⟩
    · exact (htitle.span_cons _ _).span_cons _ _
    · exact Snippet.kept_of_mem_rows hr
    · exact (((hhelp t ht).bare_cons _).span_cons _ _).span_cons _ _
  intro c hc
  rw [Message.text, StyledText.chars_join] at hc
  rcases Search.mem_join hc with hc | ⟨cs, hcs, hc⟩
  · rw [List.mem_singleton.mp hc]
    decide
  · obtain ⟨r, hr, rfl⟩ := List.mem_map.mp hcs
    exact hrows r hr c hc

/-- **A message without tabs and escape characters says the same in both renderings.** -/
theorem unescaped_render {m : Message} (htitle : Kept m.title)
    (hhelp : ∀ t, m.help = some t → Kept t)
    (h : ∀ c, Shifty c → c ∉ (Rendering.plain.render m).toList) :
    StyledText.plain (ofEscapes (Rendering.styled.render m)) = Rendering.plain.render m := by
  have hclean : Clean m.text := by
    intro c hc
    have hshifty : ¬ Shifty c := fun hshifty => h c hshifty (by
      rw [Rendering.render, StyledText.plain, String.toList_ofList]
      exact hc)
    rw [Shifty, not_or] at hshifty
    exact ⟨hshifty.1, hshifty.2, Message.kept_text htitle hhelp c hc⟩
  exact congrArg String.ofList (chars_ofEscapes_ansi hclean)

/-- **A message without tabs is the same on a screen that trims**, if no line that is wider than the
screen ends with a blank. -/
theorem trimmed_render {m : Message} {columns : Nat}
    (htab : '\t' ∉ (Rendering.plain.render m).toList)
    (hwide : NoWideBlanks columns (Rendering.plain.render m).toList) :
    (Rendering.trimmed columns).render m = Rendering.styled.render m := by
  have hchars : (Rendering.plain.render m).toList = StyledText.chars m.text := String.toList_ofList
  rw [hchars] at htab hwide
  refine ansiTrimmed_eq_ansi fun p hp => ?_
  have hline : '\t' ∉ p := fun hmem => htab (Search.mem_of_mem_pieces hp hmem).1
  rw [expanded, flatten_expandChars 0 hline]
  exact hwide p hp

end HouseRules
