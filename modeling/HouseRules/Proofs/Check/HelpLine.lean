import HouseRules.Proofs.Check.AddedLines
import HouseRules.Proofs.Check.MarkedLine
import HouseRules.Proofs.Check.Renderings
import HouseRules.Proofs.Json.Reader
import HouseRules.Proofs.Snippet.Frame

/-! # The quoted commit message

A finding in a history ends with a line of help that quotes the message of its commit. The quotation
is a JSON literal: each line feed and each character that no text keeps is escaped in it
(`kept_literal`), so it stands in one line and whole, and it is read back as the message
(`parse_literal`).

That every finding of a run has such a line is found step by step: the findings in the files of a
commit concern that commit (`ensures_scanFiles`), those of a run a commit of the history
(`ensures_findings`). -/

namespace HouseRules

open Styled

/-! ### Commits of a history -/

/-- The commit is one of those that are read for the history. -/
def History.Yields (h : History) (commit : Commit) : Prop :=
  ∃ s cs s', h.commits.start s = (.ok cs, s') ∧
    ∃ read ∈ cs, ∃ t t', read.start t = (.ok commit, t')

/-- The commits of a history held in memory are those given. -/
theorem History.yields_memory_iff {commits : List Commit} {blobs : List (String × Bytes)}
    {commit : Commit} : (History.memory commits blobs).Yields commit ↔ commit ∈ commits := by
  constructor
  · rintro ⟨s, cs, s', ⟨⟩, read, hread, t, t', hstart⟩
    obtain ⟨commit', hmem, rfl⟩ := List.mem_map.mp hread
    cases hstart
    exact hmem
  · intro h
    exact ⟨{}, _, {}, rfl, pure commit, List.mem_map_of_mem h, {}, {}, rfl⟩

/-! ### The literal -/

theorem isDropped_eq_false {c : Char} (h : 0x20 ≤ c.toNat) : isDropped c = false := by
  simp only [isDropped, Bool.or_eq_false_iff, Bool.and_eq_false_iff, beq_eq_false_iff_ne,
    decide_eq_false_iff_not]
  omega

/-- Of characters from the blank on all are kept. -/
theorem kept_eq_self {cs : List Char} (h : ∀ c ∈ cs, 0x20 ≤ c.toNat) : kept cs = cs :=
  List.filter_eq_self.mpr fun c hc => by rw [isDropped_eq_false (h c hc)]; rfl

theorem le_of_all {cs : List Char} (h : cs.all (0x20 ≤ ·.toNat) = true) :
    ∀ c ∈ cs, 0x20 ≤ c.toNat :=
  fun c hc => of_decide_eq_true (List.all_eq_true.mp h c hc)

theorem newline_not_mem_of_le {cs : List Char} (h : ∀ c ∈ cs, 0x20 ≤ c.toNat) : '\n' ∉ cs :=
  fun hmem => absurd (h '\n' hmem) (by decide)

namespace Json

theorem kept_literal (text : String) :
    kept (literal .unicode text).toList = (literal .unicode text).toList :=
  kept_eq_self fun _ => le_of_mem_literal

/-- **A literal is read back.** -/
theorem parse_literal (charset : Charset) (text : String) :
    parse (literal charset text) = some (.string text) := by
  have hreads : Reads 1 (literal charset text).toList (.string text) := by
    rw [literal, String.toList_ofList]
    exact reads_literal charset text
  have hblank : Blank "".toList := fun c hc => by cases hc
  have hparse := hreads.parse (Nat.le_add_left 1 _) hblank
  rwa [String.append_empty] at hparse

end Json

/-! ### The last line of a message -/

namespace Message

/-- **A message with a snippet and help** ends with the last bar of the snippet and the help. -/
theorem exists_render_eq (title text : StyledText) (s : Snippet) :
    ∃ above, (Rendering.plain.render { title, snippets := [s], help := some text }).toList =
      above ++ '\n' :: (s.barLine ++ '\n' ::
        (List.replicate s.gutter ' ' ++ (" = help: ".toList ++ text.chars))) := by
  have hframe : s.frame s.layout.caretStart s.layout.carets =
      (s.frame s.layout.caretStart s.layout.carets).dropLast ++ [s.barLine] := by
    rw [Snippet.frame, List.dropLast_concat]
  have hrows : (Message.rows { title, snippets := [s], help := some text }).map StyledText.chars =
      (("error: ".toList ++ title.chars) ::
        s.locationLine (s.layout.caretStart s.markedFirst) ::
        (s.frame s.layout.caretStart s.layout.carets).dropLast) ++
      [s.barLine, List.replicate s.gutter ' ' ++ (" = help: ".toList ++ text.chars)] := by
    rw [map_chars_rows, List.flatMap_singleton, hframe, List.dropLast_concat]
    simp only [List.cons_append, List.append_assoc, List.nil_append]
    rfl
  rw [Rendering.render, StyledText.plain, String.toList_ofList, Message.text, StyledText.chars_join,
    hrows, Search.join_append ['\n'] (List.cons_ne_nil _ _) (List.cons_ne_nil _ _),
    Search.join_cons_of_ne_nil ['\n'] s.barLine (List.cons_ne_nil _ _), List.append_assoc,
    List.append_assoc]
  exact ⟨_, rfl⟩

end Message

/-! ### Findings and their commits -/

namespace CommittedTodos

open Reading

variable {rendering : Rendering} {h : History} {ignored : String → Bool} {commit : Commit}

/-- The finding is on a marked line that the commit, whose message is `text`, adds to a file. -/
def Concerns (rendering : Rendering) (commit : Commit) (text : String) (f : Finding) : Prop :=
  commit.message = some text ∧ ∃ file ∈ commit.files, ∃ c ∈ file.changes, Marked c ∧
    ∃ source, f = findingOf rendering commit.id text file.path source c

theorem ensures_report (commitId text path : String) (c : Change) :
    Ensures (report rendering h commitId text path c) fun f =>
      ∃ source, f = findingOf rendering commitId text path source c := by
  refine (ensures_result (h.blob c.blob)).bind fun content _ => ?_
  cases hdecode : Utf8.decode content with
  | error e => exact ensures_throw _
  | ok source =>
    rw [Utf8.decode_eq_ok_iff] at hdecode
    subst hdecode
    exact ensures_pure ⟨source, rfl⟩

theorem Outcome.ensures_andThen {rest : Reading Outcome} {P : Finding → Prop}
    (hrest : Ensures rest fun o => ∀ f ∈ o.findings, P f) {o : Outcome}
    (ho : ∀ f ∈ o.findings, P f) : Ensures (o.andThen rest) fun o => ∀ f ∈ o.findings, P f := by
  cases o with
  | ignored => exact ensures_pure ho
  | found here =>
    refine hrest.map fun o' ho' => ?_
    cases o' with
    | ignored => exact ho'
    | found there =>
      intro f hf
      exact (List.mem_append.mp hf).elim (ho f) (ho' f)

/-- The findings of the files of a commit concern it. -/
theorem ensures_scanFiles : ∀ {fs : List ChangedFile}, fs ⊆ commit.files →
    Ensures (scanFiles rendering h ignored commit fs) fun o =>
      ∀ f ∈ o.findings, ∃ text, Concerns rendering commit text f
  | [], _ => ensures_pure fun f hf => by cases hf
  | file :: fs, hsub => by
    obtain ⟨hfile, hfs⟩ := List.cons_subset.mp hsub
    by_cases hi : ignored file.path = true
    · rw [scanFiles_of_ignored hi]
      exact ensures_pure fun f hf => by cases hf
    · rw [scanFiles_of_not_ignored (Bool.eq_false_iff.mpr hi)]
      cases hmessage : commit.message with
      | none => exact ensures_throw _
      | some text =>
        have hhere : Ensures ((file.changes.filter (holdsMark ·.content)).mapM
            (report rendering h commit.id text file.path)) fun here =>
              ∀ f ∈ here, ∃ text, Concerns rendering commit text f := by
          refine Ensures.mapM fun c hc => ?_
          obtain ⟨hmem, hmark⟩ := List.mem_filter.mp hc
          refine (ensures_report commit.id text file.path c).mono fun f hf => ?_
          exact ⟨text, hmessage, file, hfile, c, hmem, (holdsMark_iff c).mp hmark, hf⟩
        exact hhere.bind fun here hhere =>
          Outcome.ensures_andThen (ensures_scanFiles hfs) (o := .found here) hhere

/-- The findings of commits concern them. -/
theorem ensures_scan {P : Commit → Prop} : ∀ {cs : List (Reading Commit)},
    (∀ read ∈ cs, Ensures read P) → Ensures (scan rendering h ignored cs) fun o =>
      ∀ f ∈ o.findings, ∃ commit text, P commit ∧ Concerns rendering commit text f
  | [], _ => ensures_pure fun f hf => by cases hf
  | read :: cs, hcs => by
    obtain ⟨hread, hrest⟩ := List.forall_mem_cons.mp hcs
    rw [scan_cons]
    refine hread.bind fun commit hcommit => ?_
    refine (ensures_scanFiles (List.Subset.refl _)).bind fun o ho => ?_
    refine Outcome.ensures_andThen (ensures_scan hrest) fun f hf => ?_
    obtain ⟨text, htext⟩ := ho f hf
    exact ⟨commit, text, hcommit, htext⟩

/-- **Each finding of a run concerns a commit of the history.** -/
theorem ensures_findings (rendering : Rendering) (h : History) (filters : List Filter) :
    Ensures (findings rendering h filters) fun fs =>
      ∀ f ∈ fs, ∃ commit text, h.Yields commit ∧ Concerns rendering commit text f := by
  rw [findings_eq]
  refine (ensures_result h.commits).bind fun cs hcs => ?_
  obtain ⟨s, s', hstart⟩ := hcs
  refine (ensures_scan fun read hread => ?_).map fun o ho => ho
  refine (ensures_result read).mono fun commit hcommit => ?_
  exact ⟨s, cs, s', hstart, read, hread, hcommit⟩

/-- What is said about a change ends with the literal, whole, in a line of its own. -/
theorem exists_message_eq (commitId text path source : String) (c : Change)
    (hid : ∀ d ∈ commitId.toList, 0x20 ≤ d.toNat) : ∃ above pad : String,
    (∀ d ∈ pad.toList, d = ' ') ∧
    (findingOf .plain commitId text path source c).message =
      above ++ "\n" ++ pad ++ " |" ++ "\n" ++ (pad ++
        " = help: consider removing all TODOs and FIXMEs from commit " ++ commitId ++
        " with message " ++ Json.literal .unicode text) := by
  let snippet : Snippet :=
    { source, origin := path, range := displayRange (Utf8.encode source) c.range, label := title }
  obtain ⟨above, habove⟩ := Message.exists_render_eq styledTitle (help commitId text) snippet
  rw [chars_help, kept_eq_self hid, Json.kept_literal] at habove
  refine ⟨String.ofList above, repeated snippet.gutter ' ', fun d hd => ?_, ?_⟩
  · rw [repeated, String.toList_ofList] at hd
    exact List.eq_of_mem_replicate hd
  · rw [← String.toList_inj]
    refine habove.trans ?_
    simp [repeated, Snippet.barLine]

/-- **The message of a commit is quoted without loss, in one line.** Each finding of a run is on a
marked line of a commit of the history, and this commit has a message. If the name of the commit
holds no characters below the blank, what is said ends with one line of help behind the margin of
the row above, and the line ends with a literal. No character of the literal is a line feed or one
that no text keeps, and the literal is read back as the message of the commit. -/
theorem execute_helpLine {h : History} {filters : List Filter} {s s' : Session} {fs : List Finding}
    (hrun : ((check .plain).execute (.history h) filters).start s = (.ok fs, s')) {f : Finding}
    (hf : f ∈ fs) : ∃ commit text, h.Yields commit ∧ Concerns .plain commit text f ∧
    f.commitId = some commit.id ∧ commit.message = some text ∧
    ((∀ c ∈ commit.id.toList, 0x20 ≤ c.toNat) → ∃ above pad line literal : String,
      f.message = above ++ "\n" ++ pad ++ " |" ++ "\n" ++ line ∧
      line = pad ++ " = help: consider removing all TODOs and FIXMEs from commit " ++ commit.id ++
        " with message " ++ literal ∧
      (∀ c ∈ pad.toList, c = ' ') ∧ '\n' ∉ line.toList ∧ literal = Json.literal .unicode text ∧
      (∀ c ∈ literal.toList, c ≠ '\n' ∧ isDropped c = false) ∧
      Json.parse literal = some (.string text)) := by
  obtain ⟨commit, text, hyields, hconcerns⟩ := ensures_findings .plain h filters s fs s' hrun f hf
  obtain ⟨hmessage, file, -, c, -, -, source, rfl⟩ := id hconcerns
  refine ⟨commit, text, hyields, hconcerns, rfl, hmessage, fun hid => ?_⟩
  obtain ⟨above, pad, hpad, heq⟩ := exists_message_eq commit.id text file.path source c hid
  refine ⟨above, pad, _, _, heq, rfl, hpad, newline_not_mem_of_le fun d hd => ?_, rfl,
    fun d hd => ?_, Json.parse_literal .unicode text⟩
  · simp only [String.toList_append, List.mem_append] at hd
    rcases hd with (((hd | hd) | hd) | hd) | hd
    · exact Nat.le_of_eq (congrArg Char.toNat (hpad d hd)).symm
    · exact le_of_all (by decide) d hd
    · exact hid d hd
    · exact le_of_all (by decide) d hd
    · exact Json.le_of_mem_literal hd
  · have hle := Json.le_of_mem_literal hd
    exact ⟨fun hd => absurd (hd ▸ hle) (by decide), isDropped_eq_false hle⟩

/-- A message with line feeds, a tab, a bell, quotes and a backslash. -/
def oddMessage : String := "Fix\n\n\t\"a\\b\"\x07\r\n"

/-- The marked line of a commit with that message. -/
def oddChange : Change := ⟨"// TODO\n", ⟨0, 8⟩, "b"⟩

/-- A history of that commit. -/
def oddHistory : History :=
  .memory [⟨"f00", some oddMessage, [⟨"a.cs", [oddChange]⟩]⟩] [("b", Utf8.encode "// TODO\n")]

/-- The finding in that history. -/
def oddFinding : Finding := findingOf .plain "f00" oddMessage "a.cs" "// TODO\n" oddChange

theorem start_oddHistory : ((check .plain).execute (.history oddHistory) []).start {} =
    (.ok [oddFinding], { reads := ["b"] }) := by
  have hmarked : [oddChange].filter (holdsMark ·.content) = [oddChange] := by decide
  have hreport : (report .plain oddHistory "f00" oddMessage "a.cs" oddChange).start {} =
      (.ok oddFinding, { reads := ["b"] }) := by
    have hblob : (oddHistory.blob oddChange.blob).start {} =
      (.ok (Utf8.encode "// TODO\n"), { reads := ["b"] }) := rfl
    rw [report, start_bind, hblob]
    simp only [Utf8.decode_encode]
    rfl
  have hfindings : findings .plain oddHistory [] =
      (fun f => [f]) <$> report .plain oddHistory "f00" oddMessage "a.cs" oddChange := by
    simp only [findings, History.commits, oddHistory, scan, scanFiles, hmarked, map_eq_pure_bind,
      List.map_cons, List.map_nil, List.any_nil, Bool.false_eq_true, if_false, List.mapM_cons,
      List.mapM_nil, pure_bind, bind_assoc, List.append_nil]
  change (findings .plain oddHistory []).start {} = _
  rw [hfindings, start_map, hreport]
  rfl

/-- Nothing of that message is lost. -/
theorem execute_helpLine_odd :
    oddHistory.Yields ⟨"f00", some oddMessage, [⟨"a.cs", [oddChange]⟩]⟩ ∧
    (((check .plain).execute (.history oddHistory) []).start {}).1 = .ok [oddFinding] ∧
    ∃ above pad literal : String, oddFinding.message = above ++ "\n" ++ (pad ++
        " = help: consider removing all TODOs and FIXMEs from commit " ++ "f00" ++
          " with message " ++ literal) ∧
      literal = "\"Fix\\n\\n\\t\\\"a\\\\b\\\"\\u0007\\r\\n\"" ∧
      Json.parse literal = some (.string oddMessage) := by
  obtain ⟨commit, text, hyields, -, -, hmessage, hline⟩ :=
    execute_helpLine start_oddHistory (List.mem_singleton_self oddFinding)
  rw [oddHistory, History.yields_memory_iff, List.mem_singleton] at hyields
  subst hyields
  cases hmessage
  obtain ⟨above, pad, line, literal, hfinding, rfl, -, -, rfl, -, hparse⟩ :=
    hline (le_of_all (by decide))
  exact ⟨History.yields_memory_iff.mpr List.mem_cons_self, congrArg Prod.fst start_oddHistory,
    above ++ "\n" ++ pad ++ " |", pad, _, hfinding, by decide, hparse⟩

end CommittedTodos

end HouseRules
