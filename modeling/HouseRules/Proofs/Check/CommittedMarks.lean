import HouseRules.Proofs.Check.MarkedLine
import HouseRules.Proofs.Check.Scan
import HouseRules.Proofs.History.Recording

/-! # Committed marks are found, and nothing else

In a recorded repository, the check on committed marks reports each added line that holds a mark,
once and in the order of commits, files and lines (`execute_recording`). The message shows
the line with its number in the new blob. -/

namespace HouseRules.CommittedTodos

open Bytes Reading Diff Styled

/-! ### What is to be found -/

/-- The finding for line `n` of a blob, an added line `t` of a patch. -/
def markFinding (commitId text : String) (p : FilePatch) (blob : Bytes) (n : Nat) (t : Bytes) :
    Finding where
  checkId := checkId
  message := markText commitId text (Utf8.decodeLossy p.path.bytes) n (Utf8.decodeLossyList t)
    (blanks t) (max ((Utf8.items (t ++ FilePatch.ending blob n t).dropLast).length - blanks t) 1)
  path := Utf8.decodeLossy p.path.bytes
  commitId := some commitId

/-- The findings for a patch: one for each added line that holds a mark, if there is a new blob. -/
def patchFindings (blobs : String → Bytes) (commitId text : String) (p : FilePatch) :
    List Finding :=
  match p.newBlob? with
  | none => []
  | some h => (p.added.filter (hasMark ·.2)).map fun (n, t) =>
    markFinding commitId text p (blobs h.name) n t

/-! ### One line -/

theorem ending_cases (blob : Bytes) (n : Nat) (t : Bytes) :
    FilePatch.ending blob n t = [] ∨ FilePatch.ending blob n t = [newline] := by
  unfold FilePatch.ending
  split_ifs
  · exact Or.inr rfl
  · exact Or.inl rfl

theorem holdsMark_addedChange (id : String) (blob : Bytes) (n : Nat) (t : Bytes) :
    holdsMark (FilePatch.addedChange id blob n t).content = hasMark t := by
  rw [FilePatch.addedChange, holdsMark_decodeLossy, hasMark_append (ending_cases blob n t)]

/-- The message on an added line of a blob that is text. -/
theorem render_addedChange {source : String} {n : Nat} {t : Bytes}
    (hline : FilePatch.IsLine (Utf8.encode source) n t) (hn : newline ∉ t) (hm : hasMark t = true)
    (commitId text path id : String) :
    Rendering.plain.render (message commitId text path source (Utf8.encode source)
        (FilePatch.addedChange id (Utf8.encode source) n t)) =
      markText commitId text path n (Utf8.decodeLossyList t) (blanks t)
        (max ((Utf8.items (t ++ FilePatch.ending (Utf8.encode source) n t).dropLast).length -
          blanks t) 1) := by
  obtain ⟨k, rfl⟩ : ∃ k, n = k + 1 := ⟨n - 1, by have := hline.1; omega⟩
  have hcut := FilePatch.getElem?_cutLines hn hline
  rw [Nat.add_sub_cancel] at hcut
  refine render_message hcut (ending_cases _ _ _) hm hn commitId text path ?_
  rw [FilePatch.addedChange, Nat.add_sub_cancel, Int.natCast_add]
  rfl

section Recording

variable {rec : Recording} {text : RecordedCommit → String}
  {patches : RecordedCommit → List FilePatch} (hp : rec.Prints text patches)
  {rs : Repository → Prop} {r : Repository} (hn : Numbered rs) (hr : rs r)
  (hgit : r.git = rec.git)

include hp hn hr hgit

/-- An added line with a mark is reported. -/
theorem gives_report {c : RecordedCommit} (hc : c ∈ rec.commits) {p : FilePatch}
    (hpc : p ∈ patches c) {h : Hash} (hh : p.newBlob? = some h) {n : Nat} {t : Bytes}
    (ht : (n, t) ∈ p.added) (hm : hasMark t = true)
    (hread : ∃ source, rec.blobOf h.name = Utf8.encode source) (message : String) :
    Gives (Faithful rs) (report .plain (.repository r) c.id message (Utf8.decodeLossy p.path.bytes)
        (FilePatch.addedChange h.name (rec.blobOf h.name) n t))
      (.ok (markFinding c.id message p (rec.blobOf h.name) n t)) := by
  have hneeded : p.neededBlob? = some h := by
    rw [FilePatch.neededBlob?, if_neg (List.ne_nil_of_mem ht), hh]
  obtain ⟨source, hsource⟩ := hread
  refine (Recording.gives_blob hp hn hr hgit (hp.present c hc p hpc h hneeded)).bind ?_
  have hline := hp.fits c hc p hpc h hh n t ht
  rw [hsource] at hline
  rw [hsource, Utf8.decode_encode, markFinding,
    ← render_addedChange hline (FilePatch.mem_added ht) hm c.id message
      (Utf8.decodeLossy p.path.bytes) h.name]
  exact gives_pure _

variable (hread : ∀ c ∈ rec.commits, ∀ p ∈ patches c, ∀ h, p.newBlob? = some h →
  (∃ q ∈ p.added, hasMark q.2 = true) → ∃ source, rec.blobOf h.name = Utf8.encode source)

include hread

/-- The marked lines of a file are reported. -/
theorem gives_patchFindings {c : RecordedCommit} (hc : c ∈ rec.commits) {p : FilePatch}
    (hpc : p ∈ patches c) (message : String) :
    Gives (Faithful rs)
      (((p.changedFile rec.blobOf).changes.filter (holdsMark ·.content)).mapM
        (report .plain (.repository r) c.id message (p.changedFile rec.blobOf).path))
      (.ok (patchFindings rec.blobOf c.id message p)) := by
  rw [FilePatch.changedFile, FilePatch.changes, patchFindings]
  cases hh : p.newBlob? with
  | none => exact gives_pure []
  | some h =>
    have hfilter : (p.added.map fun q =>
        FilePatch.addedChange h.name (rec.blobOf h.name) q.1 q.2).filter (holdsMark ·.content) =
        (p.added.filter (hasMark ·.2)).map fun q =>
          FilePatch.addedChange h.name (rec.blobOf h.name) q.1 q.2 := by
      rw [List.filter_map]
      exact congrArg _ (List.filter_congr fun q _ => holdsMark_addedChange _ _ _ _)
    refine (congrArg (fun l => Gives _ (List.mapM _ l) _) hfilter).mpr ?_
    rw [List.mapM_map]
    refine Gives.mapM fun q hq => ?_
    obtain ⟨hadded, hm⟩ := List.mem_filter.mp hq
    rw [FilePatch.readPath_eq (Or.inl (FilePatch.exists_hunks_of_mem_added hadded))]
    exact gives_report hp hn hr hgit hc hpc hh hadded hm
      (hread c hc p hpc h hh ⟨q, hadded, hm⟩) message

/-- The files of a commit are scanned one after the other. -/
theorem gives_scanFiles {ignored : String → Bool} (hi : ∀ path, ignored path = false)
    {c : RecordedCommit} (hc : c ∈ rec.commits) {commit : Commit} (hid : commit.id = c.id)
    {message : String} (hmessage : commit.message = some message) :
    ∀ {ps : List FilePatch}, ps ⊆ patches c →
      Gives (Faithful rs)
        (scanFiles .plain (.repository r) ignored commit (ps.map (·.changedFile rec.blobOf)))
        (.ok (.found (ps.flatMap (patchFindings rec.blobOf c.id message))))
  | [], _ => gives_pure _
  | p :: ps, hsub => by
    rw [List.map_cons, scanFiles_of_not_ignored (hi _), hmessage, hid]
    have hhere := gives_patchFindings hp hn hr hgit hread hc (hsub List.mem_cons_self) message
    have ih := gives_scanFiles hi hc hid hmessage fun q hq => hsub (List.mem_cons_of_mem p hq)
    exact hhere.bind (ih.map _)

/-- The commits are scanned one after the other. -/
theorem gives_scan {ignored : String → Bool} (hi : ∀ path, ignored path = false) :
    ∀ {cs : List RecordedCommit}, cs ⊆ rec.commits →
      Gives (Faithful rs)
        (scan .plain (.repository r) ignored ((cs.map (·.id)).map r.commit))
        (.ok (.found (cs.flatMap fun c => (patches c).flatMap
          (patchFindings rec.blobOf c.id (Text.stripEndOf ['\n'] (text c))))))
  | [], _ => gives_pure _
  | c :: cs, hsub => by
    have hc : c ∈ rec.commits := hsub List.mem_cons_self
    have ih := gives_scan hi fun c' hc' => hsub (List.mem_cons_of_mem c hc')
    rw [List.map_cons, List.map_cons, scan_cons]
    refine (Recording.gives_commit hp hn hr hgit hc).bind ?_
    exact (gives_scanFiles hp hn hr hgit hread hi hc rfl rfl (List.Subset.refl _)).bind (ih.map _)

/-- The findings of a scan without ignored paths. -/
theorem gives_findings {filters : List Filter} (hfilters : ∀ f ∈ filters, ∀ p, f ≠ .path p) :
    Gives (Faithful rs) (findings .plain (.repository r) filters)
      (.ok (rec.commits.flatMap fun c => (patches c).flatMap
        (patchFindings rec.blobOf c.id (Text.stripEndOf ['\n'] (text c))))) := by
  have hi : ∀ path, filters.any (·.matchesPath path) = false := by
    intro path
    refine List.any_eq_false.mpr fun f hf => ?_
    cases f with
    | path p => exact absurd rfl (hfilters _ hf p)
    | namespaced p => exact Bool.false_ne_true
  have hcommits : Gives (Faithful rs) (History.commits (.repository r))
      (.ok ((rec.commits.map (·.id)).map r.commit)) :=
    (Recording.gives_commitIds hp hgit).bind (gives_pure _)
  rw [findings_eq]
  exact hcommits.bind ((gives_scan hp hn hr hgit hread hi (List.Subset.refl _)).map _)

end Recording

/-! ### A whole history -/

theorem numbered_eq (r : Repository) : Numbered (· = r) := by
  rintro r₁ r₂ rfl rfl _
  rfl

/-- **Committed marks are found, and nothing else.** In a recorded repository where no call fails,
whose diffs print patches that fit the blobs, the check finds each added line that holds a mark in
the bytes of it, in the order of the commits, of the files in a commit and of the lines in a file;
files without a new blob are passed over. The finding names the commit and the path; its message is
`markText`, with the number of the line in the new blob, the column behind its white space, and the
line itself as the only line shown. -/
theorem execute_recording {rec : Recording} {text : RecordedCommit → String}
    {patches : RecordedCommit → List FilePatch} (hp : rec.Prints text patches)
    (hread : ∀ c ∈ rec.commits, ∀ p ∈ patches c, ∀ h, p.newBlob? = some h →
      (∃ q ∈ p.added, hasMark q.2 = true) → ∃ source, rec.blobOf h.name = Utf8.encode source)
    {r : Repository} (hgit : r.git = rec.git) {filters : List Filter}
    (hfilters : ∀ f ∈ filters, ∀ p, f ≠ .path p) {s : Session} (hs : Faithful (· = r) s) :
    (((check .plain).execute (.history (.repository r)) filters).start s).1 =
      .ok (rec.commits.flatMap fun c => (patches c).flatMap
        (patchFindings rec.blobOf c.id (Text.stripEndOf ['\n'] (text c)))) := by
  obtain ⟨s', hrun, -⟩ := gives_findings hp (numbered_eq r) rfl hgit hread hfilters s hs
  exact congrArg Prod.fst hrun

/-! ### Two recordings -/

/-- A recording of one commit, with one patch. -/
def recordingOf (p : FilePatch) (blob : String) : Recording where
  top := []
  commits := [⟨"c", Utf8.encode "m\n", write [p]⟩]
  blobs := [("1b", Utf8.encode blob)]

/-- The repository of a recording. -/
def repositoryOf (rec : Recording) : Repository where
  git := rec.git
  path := Path.ofString "/r"

theorem blobOf_recordingOf (p : FilePatch) (blob : String) :
    (recordingOf p blob).blobOf "1b" = Utf8.encode blob := rfl

theorem prints_recordingOf {p : FilePatch} {h : Hash} (hh : p.newBlob? = some h)
    (hname : h.name = "1b") {n : Nat} {t : Bytes} (hadded : p.added = [(n, t)]) {blob : String}
    (hline : FilePatch.IsLine (Utf8.encode blob) n t) :
    (recordingOf p blob).Prints (fun _ => "m\n") fun _ => [p] where
  noFailures := rfl
  distinct := by simp [recordingOf]
  named := by simp [recordingOf]
  message := by simp [recordingOf]
  diff := by simp [recordingOf]
  present := by
    intro c _ q hq h' hh'
    cases List.mem_singleton.mp hq
    cases hh.symm.trans (FilePatch.newBlob?_of_needed hh')
    rw [hname]
    rfl
  fits := by
    intro c _ q hq h' hh' n' t' ht
    cases List.mem_singleton.mp hq
    cases hh.symm.trans hh'
    rw [hadded] at ht
    cases List.mem_singleton.mp ht
    rw [hname, blobOf_recordingOf]
    exact hline

theorem exists_source_recordingOf {p : FilePatch} {h : Hash} (hh : p.newBlob? = some h)
    (hname : h.name = "1b") (blob : String) :
    ∀ c ∈ (recordingOf p blob).commits, ∀ q ∈ [p], ∀ h', q.newBlob? = some h' →
      (∃ a ∈ q.added, hasMark a.2 = true) →
      ∃ source, (recordingOf p blob).blobOf h'.name = Utf8.encode source := by
  intro c _ q hq h' hh' _
  cases List.mem_singleton.mp hq
  cases hh.symm.trans hh'
  exact ⟨blob, by rw [hname, blobOf_recordingOf]⟩

/-- A patch that adds a last line, without a line feed behind it. -/
def lastLinePatch : FilePatch where
  path := { bytes := Bytes.ofAscii "b.cs" }
  header := .kept { digits := Bytes.ofAscii "0a" } { digits := Bytes.ofAscii "1b" } (by decide)
    (some .plain)
  content := .hunks [{
    oldStart := 1, oldCount := some 0, newStart := 2, newCount := none
    heading := .empty
    lines := [.added { bytes := Utf8.encode "  // TODO é" },
      .noNewline] }]
  modeOnly := nofun

/-- The finding in the last line. -/
theorem execute_recording_lastLine :
    (((check .plain).execute (.history (.repository
        (repositoryOf (recordingOf lastLinePatch "x\n  // TODO é")))) []).start {}).1 =
      .ok [⟨"GIT001",
        "error: expected no commited changes to contain TODO or FIXME\n" ++
          " --> b.cs:2:3\n  |\n2 |   // TODO é\n" ++
          "  |   ^^^^^^^^^ expected no commited changes to contain TODO or FIXME\n  |\n" ++
          "  = help: consider removing all TODOs and FIXMEs from commit c with message \"m\"",
        "b.cs", some "c"⟩] := by
  have hline : FilePatch.IsLine (Utf8.encode "x\n  // TODO é") 2 (Utf8.encode "  // TODO é") :=
    ⟨by decide, Or.inr (by decide)⟩
  have hprints := prints_recordingOf (p := lastLinePatch) rfl rfl rfl hline
  refine (execute_recording hprints (exists_source_recordingOf rfl rfl _) rfl
    (List.forall_mem_nil _)
    (faithful_default _)).trans (congrArg Except.ok ?_)
  decide +kernel

/-- A patch of a file whose path holds a bell. -/
def bellPatch : FilePatch where
  path := { bytes := Bytes.ofAscii "a\x07.cs" }
  header := .created .plain .zero { digits := Bytes.ofAscii "1b" } (by decide)
  content := .hunks [{
    oldStart := 0, oldCount := some 0, newStart := 1, newCount := none
    heading := .empty
    lines := [.added { bytes := Bytes.ofAscii "// TODO" }] }]
  modeOnly := nofun

/-- The second row of the message is not the path with its bell, the line and the column, though the
finding names the path with it. -/
theorem execute_recording_bell :
    (((check .plain).execute (.history (.repository
        (repositoryOf (recordingOf bellPatch "// TODO\n")))) []).start {}).1.toOption.map
      (·.map fun f => (f.path, (Search.pieces '\n' f.message.toList)[1]?)) =
      some [("a\x07.cs", some " --> a.cs:1:1".toList)] := by
  have hline : FilePatch.IsLine (Utf8.encode "// TODO\n") 1 (Bytes.ofAscii "// TODO") :=
    ⟨by decide, Or.inl (by decide)⟩
  have hprints := prints_recordingOf (p := bellPatch) rfl rfl rfl hline
  obtain ⟨s, hrun, -⟩ := gives_findings hprints (numbered_eq _) rfl
    (r := repositoryOf (recordingOf bellPatch "// TODO\n")) rfl
    (exists_source_recordingOf rfl rfl _) (List.forall_mem_nil _) {} (faithful_default _)
  change (Reading.start (findings .plain (.repository (repositoryOf
    (recordingOf bellPatch "// TODO\n"))) []) {}).1.toOption.map _ = _
  rw [hrun]
  change some [(_, (Search.pieces '\n' (String.ofList _).toList)[1]?)] = _
  rw [String.toList_ofList]
  decide +kernel

end HouseRules.CommittedTodos
