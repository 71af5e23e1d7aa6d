import HouseRules.Proofs.Report.Document
import HouseRules.Proofs.Styled.ReadLines

/-! # What a JSON report says

The JSON text of a report is read back as the report, but for the styles of its messages. What is
left of a message without its styles is told apart from how it is read (`Styled.Shows`): all
characters that do not belong to a switch of styles, in their order (`Shows.plain_ofEscapes`). So a
message without switches is left as it is, and two reports with the same text say the same. -/

namespace HouseRules

namespace Styled

open Search

/-! ### Messages without their styles -/

/-- A text with switches of styles, and the characters that are shown of it. -/
inductive Shows : List Char → List Char → Prop
  /-- Nothing. -/
  | nil : Shows [] []
  /-- A character is shown. -/
  | char {c : Char} {cs shown : List Char} (hescape : c ≠ StyledText.escape)
      (hkept : isDropped c = false) (h : Shows cs shown) : Shows (c :: cs) (c :: shown)
  /-- A switch of styles is not. -/
  | switch (codes : List Nat) {cs shown : List Char} (h : Shows cs shown) :
      Shows (StyledText.sgr codes ++ cs) shown

theorem not_mem_sgr {c : Char}
    (hc : c ∉ [StyledText.escape, '[', 'm'] ∧ between '0' '?' c = false) (codes : List Nat) :
    c ∉ StyledText.sgr codes := by
  simp only [List.mem_cons, List.not_mem_nil, or_false, not_or] at hc
  rw [sgr_eq, List.mem_append, List.mem_cons, List.mem_cons, List.mem_singleton]
  rintro ((rfl | rfl | hmem) | rfl)
  · exact hc.1.1 rfl
  · exact hc.1.2.1 rfl
  · rw [between_of_mem_codeChars hmem] at hc
    cases hc.2
  · exact hc.1.2.2 rfl

theorem Shows.return_not_mem {cs shown : List Char} (h : Shows cs shown) : '\r' ∉ cs := by
  induction h with
  | nil => simp
  | char hescape hkept h ih =>
    rw [List.mem_cons, not_or]
    refine ⟨?_, ih⟩
    rintro rfl
    exact absurd hkept (by decide)
  | switch codes h ih =>
    rw [List.mem_append, not_or]
    exact ⟨not_mem_sgr (by decide) codes, ih⟩

theorem unescapedLine_eq {l : List Char} (h : '\r' ∉ l) :
    unescapedLine l = kept ((linePieces false l).filterMap Piece.char?) := by
  rw [unescapedLine, afterReturn, pieces_of_not_mem h]
  rfl

theorem unescapedLine_nil : unescapedLine [] = [] := by
  rw [unescapedLine_eq (by simp), linePieces]
  rfl

theorem unescapedLine_cons {c : Char} {l : List Char} (hescape : c ≠ StyledText.escape)
    (hkept : isDropped c = false) (h : '\r' ∉ c :: l) :
    unescapedLine (c :: l) = c :: unescapedLine l := by
  have hl : '\r' ∉ l := fun hmem => h (List.mem_cons_of_mem c hmem)
  have hchar : Piece.char? (.char c) = some c := rfl
  rw [unescapedLine_eq h, unescapedLine_eq hl, linePieces_cons_of_ne hescape,
    List.filterMap_cons_some hchar, kept, List.filter_cons_of_pos (by rw [hkept]; rfl)]
  rfl

theorem unescapedLine_sgr_append (codes : List Nat) {l : List Char} (h : '\r' ∉ l) :
    unescapedLine (StyledText.sgr codes ++ l) = unescapedLine l := by
  have hline : '\r' ∉ StyledText.sgr codes ++ l := by
    rw [List.mem_append, not_or]
    exact ⟨not_mem_sgr (by decide) codes, h⟩
  obtain ⟨codes', hpieces⟩ := linePieces_sgr codes l
  rw [unescapedLine_eq hline, unescapedLine_eq h, hpieces, List.filterMap_cons_none rfl]

/-- The lines of a text with switches of styles are read as they are shown. -/
theorem Shows.join_unescapedLine {cs shown : List Char} (h : Shows cs shown) :
    join ['\n'] ((pieces '\n' cs).map unescapedLine) = shown := by
  induction h with
  | nil => exact unescapedLine_nil
  | @char c cs shown hescape hkept h ih =>
    by_cases hc : c = '\n'
    · rw [hc, pieces_sep_cons, List.map_cons, join_cons_of_ne_nil _ _ (by simp [pieces_ne_nil]),
        unescapedLine_nil, ih]
      rfl
    · obtain ⟨p, ps, hp, hcp⟩ := pieces_cons_of_ne hc cs
      have hreturn : '\r' ∉ c :: p := by
        intro hmem
        have hpiece : c :: p ∈ pieces '\n' (c :: cs) := by
          rw [hcp]
          exact List.mem_cons_self
        exact (h.char hescape hkept).return_not_mem (mem_of_mem_pieces hpiece hmem).1
      rw [hp, List.map_cons] at ih
      rw [hcp, List.map_cons, unescapedLine_cons hescape hkept hreturn, ← ih]
      exact join_cons_append ['\n'] [c] _ _
  | @switch codes cs shown h ih =>
    obtain ⟨p, ps, hp, hsp⟩ := pieces_append_left cs (not_mem_sgr (c := '\n') (by decide) codes)
    have hreturn : '\r' ∉ p := by
      intro hmem
      have hpiece : p ∈ pieces '\n' cs := by
        rw [hp]
        exact List.mem_cons_self
      exact h.return_not_mem (mem_of_mem_pieces hpiece hmem).1
    rw [hp, List.map_cons] at ih
    rw [hsp, List.map_cons, unescapedLine_sgr_append codes hreturn, ih]

/-- **What is read of a text is what is shown of it.** -/
theorem Shows.plain_ofEscapes {text : String} {shown : List Char} (h : Shows text.toList shown) :
    StyledText.plain (ofEscapes text) = String.ofList shown := by
  rw [StyledText.plain, chars_ofEscapes, h.join_unescapedLine]

theorem shows_self : ∀ {cs : List Char},
    (∀ c ∈ cs, c ≠ StyledText.escape ∧ isDropped c = false) → Shows cs cs
  | [], _ => .nil
  | c :: cs, h => by
    rw [List.forall_mem_cons] at h
    exact (shows_self h.2).char h.1.1 h.1.2

end Styled

open Styled

/-! ### Findings without styles -/

namespace Finding

/-- The finding with its message without styles. -/
def unstyled (f : Finding) : Finding := { f with message := f.plainMessage }

theorem value_injective {f g : Finding} (h : f.value = g.value) : f.unstyled = g.unstyled := by
  simp only [value, Json.Value.object.injEq, List.cons.injEq, Prod.mk.injEq,
    Json.Value.string.injEq, true_and, and_true] at h
  obtain ⟨hcheck, hpath, hcommit, hmessage⟩ := h
  have hid : f.commitId = g.commitId := by
    cases hf : f.commitId with
    | none =>
      cases hg : g.commitId with
      | none => rfl
      | some id =>
        rw [hf, hg] at hcommit
        cases hcommit
    | some id =>
      cases hg : g.commitId with
      | none =>
        rw [hf, hg] at hcommit
        cases hcommit
      | some id' =>
        rw [hf, hg] at hcommit
        cases hcommit
        rfl
  rw [unstyled, unstyled, hcheck, hpath, hid, hmessage]

end Finding

namespace Report

theorem value_injective {r r' : Report} (h : r.value = r'.value) : r.summary = r'.summary ∧
    r.findings.map Finding.unstyled = r'.findings.map Finding.unstyled := by
  simp only [value, Json.Value.object.injEq, List.cons.injEq, Prod.mk.injEq,
    Json.Value.string.injEq, Json.Value.array.injEq, true_and, and_true] at h
  refine ⟨h.1, ?_⟩
  have hsame : ∀ {fs gs : List Finding}, fs.map Finding.value = gs.map Finding.value →
      fs.map Finding.unstyled = gs.map Finding.unstyled := by
    intro fs
    induction fs with
    | nil =>
      intro gs hgs
      rw [List.map_eq_nil_iff.mp hgs.symm]
    | cons f fs ih =>
      intro gs hgs
      obtain ⟨g, gs, rfl, hg, hrest⟩ := List.map_eq_cons_iff.mp hgs.symm
      rw [List.map_cons, List.map_cons, Finding.value_injective hg.symm, ih hrest.symm]
  exact hsame h.2

theorem lt_of_isPlain {c : Char} (h : isPlain c = true) : c.toNat < 0x80 := by
  simp only [isPlain, Bool.or_eq_true, Bool.and_eq_true, decide_eq_true_eq] at h
  rcases h with rfl | h
  · decide
  · omega

/-- **A JSON report says what the report does.** Its text is read as an object with the summary and,
in their order, the findings with their check, path and commit, and with their messages without
styles; all its characters are ASCII; and reports with the same text have the same summary and the
same findings but for styles. The message without styles holds the characters that are shown of the
message, which are all of them if the message has no escape characters and none that are dropped. -/
theorem jsonText_decodes (r : Report) :
    Json.parse r.jsonText = some (.object [("summary", .string r.summary),
      ("errors", .array (r.findings.map fun f => .object [("check", .string f.checkId),
        ("path", .string f.path),
        ("commit", match f.commitId with
          | none => .null
          | some id => .string id),
        ("message", .string f.unstyled.message)]))]) ∧
    (∀ c ∈ r.jsonText.toList, c.toNat < 0x80) ∧
    (∀ r' : Report, r'.jsonText = r.jsonText → r'.summary = r.summary ∧
      r'.findings.map Finding.unstyled = r.findings.map Finding.unstyled) ∧
    ∀ f : Finding, (∀ shown, Shows f.message.toList shown →
        f.unstyled.message = String.ofList shown) ∧
      ((∀ c ∈ f.message.toList, c ≠ StyledText.escape ∧ isDropped c = false) → f.unstyled = f) := by
  have hparse : ∀ r : Report, Json.parse r.jsonText = some r.value := by
    intro r
    have hblank : Json.Blank "".toList := fun c hc => by cases hc
    have h := parse_jsonText r hblank
    rwa [String.append_empty] at h
  refine ⟨?_, fun c hc => ?_, fun r' hr' => ?_, fun f => ⟨fun shown hshown => ?_, fun hf => ?_⟩⟩
  · rw [hparse, value]
    have hfinding : ∀ f : Finding, f.value = .object [("check", .string f.checkId),
        ("path", .string f.path),
        ("commit", match f.commitId with
          | none => .null
          | some id => .string id),
        ("message", .string f.unstyled.message)] := by
      intro f
      rw [Finding.value]
      cases f.commitId <;> rfl
    rw [List.map_congr_left fun f _ => hfinding f]
  · exact lt_of_isPlain (List.all_eq_true.mp (all_jsonText r) c hc)
  · refine value_injective ?_
    have hvalues := hparse r'
    rw [hr', hparse r] at hvalues
    exact (Option.some.inj hvalues).symm
  · exact hshown.plain_ofEscapes
  · have hmessage : f.plainMessage = f.message := by
      rw [Finding.plainMessage, (shows_self hf).plain_ofEscapes, String.ofList_toList]
    rw [Finding.unstyled, hmessage]

/-- A finding with a styled message. -/
def styledFinding : Finding where
  checkId := "A"
  message := "\x1b[1;31merror\x1b[0m\x1b[1m: \x1b[0m😀\n\x1b[mé"
  path := "p"

/-- A finding in a commit without a name. -/
def bareFinding : Finding where
  checkId := "B"
  message := "m"
  path := "\t"
  commitId := some ""

/-- A report with characters of all kinds. -/
def colorful : Report where
  summary := "\"\\\x00\x7fé😀"
  findings := [styledFinding, bareFinding]

/-- The styles are left out, and all else is read back. -/
theorem jsonText_decodes_colorful :
    Shows styledFinding.message.toList "error: 😀\né".toList ∧
    (∀ c ∈ bareFinding.message.toList, c ≠ StyledText.escape ∧ isDropped c = false) ∧
    Json.parse colorful.jsonText = some (.object [("summary", .string "\"\\\x00\x7fé😀"),
      ("errors", .array [.object [("check", .string "A"), ("path", .string "p"),
          ("commit", .null), ("message", .string "error: 😀\né")],
        .object [("check", .string "B"), ("path", .string "\t"), ("commit", .string ""),
          ("message", .string "m")]])]) := by
  have hshows : Shows styledFinding.message.toList "error: 😀\né".toList := by
    refine .switch [1, 31] ?_
    iterate 5 refine .char (by decide) (by decide) ?_
    refine .switch [0] (.switch [1] ?_)
    iterate 2 refine .char (by decide) (by decide) ?_
    refine .switch [0] ?_
    iterate 2 refine .char (by decide) (by decide) ?_
    exact .switch [] (.char (by decide) (by decide) .nil)
  have hall : bareFinding.message.toList.all (fun c => c != StyledText.escape && !isDropped c) =
      true := by decide
  have hbare : ∀ c ∈ bareFinding.message.toList,
      c ≠ StyledText.escape ∧ isDropped c = false := by
    simpa using List.all_eq_true.mp hall
  obtain ⟨hparse, -, -, hmessage⟩ := jsonText_decodes colorful
  have hfirst : styledFinding.unstyled.message = "error: 😀\né" :=
    (hmessage styledFinding).1 _ hshows
  have hsecond := (hmessage bareFinding).2 hbare
  refine ⟨hshows, hbare, hparse.trans ?_⟩
  simp only [colorful, List.map_cons, List.map_nil, hfirst, hsecond]
  rfl

end Report

end HouseRules
