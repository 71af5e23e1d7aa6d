import HouseRules.Proofs.Check.CommittedMarks
import HouseRules.Proofs.Check.FirstStop
import HouseRules.Proofs.Check.Quiet
import HouseRules.Proofs.Diff.NumberedLines

/-! # No marked line is passed over

The line of a change is decoded with a replacement character for each fault, and whether it holds a
mark can be read off its bytes (`marked_changeOf_iff`). What git prints for a commit decides which
lines it adds (`AddedLine`), and the changes of a commit that has been read are exactly those lines
(`Repository.exists_file`, `Repository.exists_addedLine`). So a scan without ignored paths reports
each added line that holds a mark, or it ends with a failure: one of reading the history, or that
the blob of such a line is no text (`execute_addedLines`). -/

namespace HouseRules

open Bytes Diff Reading

/-! ### Outcomes of several readings -/

theorem exists_of_mapM_error {ε α β : Type} {f : α → Except ε β} {e : ε} :
    ∀ {l : List α}, l.mapM f = .error e → ∃ a ∈ l, f a = .error e
  | [], h => by cases h
  | a :: l, h => by
    rw [List.mapM_cons] at h
    cases ha : f a with
    | error e' =>
      rw [ha] at h
      cases h
      exact ⟨a, List.mem_cons_self, ha⟩
    | ok b =>
      rw [ha] at h
      cases hl : l.mapM f with
      | error e' =>
        rw [hl] at h
        cases h
        obtain ⟨a', ha', he⟩ := exists_of_mapM_error hl
        exact ⟨a', List.mem_cons_of_mem a ha', he⟩
      | ok bs =>
        rw [hl] at h
        cases h

namespace Reading

variable {α β : Type} {I : Session → Prop} {f : α → Reading β}

/-- **All readings of a list succeed, or one of them fails.** -/
theorem Gives.mapM_inv (hI : ∃ s, I s) (hf : ∀ a, Steady I (f a)) {l : List α}
    {o : Except Failure (List β)} (h : Gives I (l.mapM f) o) :
    (∃ bs, o = .ok bs ∧ (∀ a ∈ l, ∃ b ∈ bs, Gives I (f a) (.ok b)) ∧
      ∀ b ∈ bs, ∃ a ∈ l, Gives I (f a) (.ok b)) ∨
    ∃ e, o = .error e ∧ ∃ a ∈ l, Gives I (f a) (.error e) := by
  choose g hg using hf
  have hall := Gives.mapM_outcomes (l := l) fun a _ => hg a
  cases h.unique hI hall
  cases hl : l.mapM g with
  | error e =>
    obtain ⟨a, ha, he⟩ := exists_of_mapM_error hl
    exact Or.inr ⟨e, rfl, a, ha, he ▸ hg a⟩
  | ok bs =>
    obtain ⟨hsome, hmem⟩ := mem_of_mapM hl
    refine Or.inl ⟨bs, rfl, fun a ha => ?_, fun b hb => ?_⟩
    · obtain ⟨b, hb⟩ := hsome a ha
      exact ⟨b, (hmem b).mpr ⟨a, ha, hb⟩, hb ▸ hg a⟩
    · obtain ⟨a, ha, hb⟩ := (hmem b).mp hb
      exact ⟨a, ha, hb ▸ hg a⟩

end Reading

namespace CommittedTodos

/-- The bytes hold those of a mark. -/
def MarkedBytes (line : Bytes) : Prop := ∃ m ∈ marks, Bytes.ofAscii m <:+: line

/-- **Faults neither hide a mark nor make one.** -/
theorem marked_changeOf_iff (id : String) (blob : Bytes) (n : Int) (line : Bytes) :
    Marked (changeOf id blob n line) ↔ MarkedBytes line := by
  have hmark : holdsMark (changeOf id blob n line).content = hasMark line :=
    holdsMark_decodeLossy line
  rw [← holdsMark_iff, hmark, hasMark, List.any_eq_true]
  simp only [Search.occurs_iff, MarkedBytes]

end CommittedTodos

/-! ### What a commit adds -/

/-- A line that a commit adds, by what git prints. -/
structure AddedLine (r : Repository) (commitId : String) where
  diff : Bytes
  diff_printed : r.git (Repository.diffArgs commitId) = .output diff
  /-- What a section of the diff says. -/
  entry : Diff.Entry
  entry_mem : .ok (some entry) ∈ readings diff
  blobId : String
  blobId_wanted : entry.wanted? = some blobId
  blob : Bytes
  blob_printed : r.git (blobArgs blobId) = .output blob
  number : Nat
  number_mem : number ∈ entry.added
  line : Bytes
  line_eq : rawLine? blob (number : Int) = some line

/-- The change that adds the line. -/
def AddedLine.change {r : Repository} {commitId : String} (x : AddedLine r commitId) : Change :=
  changeOf x.blobId x.blob x.number x.line

namespace Repository

variable {r : Repository} {id : String}

/-- Reading the history fails. -/
def Unreadable (r : Repository) (s : Session) (e : Failure) : Prop :=
  (r.commitIds.start s).1 = .error e ∨ ∃ ids, (r.commitIds.start s).1 = .ok ids ∧
    ∃ id ∈ ids, ((r.commit id).start s).1 = .error e

section Inversion

variable (hI : ∃ s, Faithful (· = r) s)

include hI

theorem call_inv {args : List String} {bytes : Bytes}
    (h : Gives (Faithful (· = r)) (r.call args) (.ok bytes)) : r.git args = .output bytes := by
  have heq := h.unique hI (gives_call _ r args)
  cases hg : r.git args with
  | output bytes' =>
    rw [hg] at heq
    cases heq
    rfl
  | failed code stderr =>
    rw [hg] at heq
    cases heq
  | missing =>
    rw [hg] at heq
    cases heq

theorem blob_inv {bytes : Bytes} (h : Gives (Faithful (· = r)) (r.blob id) (.ok bytes)) :
    r.git (blobArgs id) = .output bytes := by
  have hcall := gives_call (· = r) r (blobArgs id)
  rw [(gives_blob (CommittedTodos.numbered_eq r) rfl id).unique hI h] at hcall
  exact call_inv hI hcall

theorem commit_inv {commit : Commit} (h : Gives (Faithful (· = r)) (r.commit id) (.ok commit)) :
    commit.id = id ∧ Gives (Faithful (· = r)) (r.commitMessage id) (.ok commit.message) ∧
      Gives (Faithful (· = r)) (r.changedFiles id) (.ok commit.files) := by
  have hfiles : Steady (Faithful (· = r)) (r.changedFiles id) :=
    steady_changedFiles (CommittedTodos.numbered_eq r) rfl id
  obtain ⟨message, hmessage, h⟩ := h.bind_inv hI (steady_commitMessage id) fun message =>
    hfiles.bind fun files => steady_pure (⟨id, message, files⟩ : Commit)
  obtain ⟨files, hfiles, h⟩ := h.bind_inv hI hfiles fun files =>
    steady_pure (⟨id, message, files⟩ : Commit)
  cases h.unique hI (gives_pure _)
  exact ⟨rfl, hmessage, hfiles⟩

/-- The files of a commit are those of the sections of its diff. -/
theorem mem_changedFiles {files : List ChangedFile}
    (h : Gives (Faithful (· = r)) (r.changedFiles id) (.ok files)) :
    ∃ diff, r.git (diffArgs id) = .output diff ∧ ∀ f, f ∈ files ↔
      ∃ e, .ok (some e) ∈ readings diff ∧
        Gives (Faithful (· = r)) (e.resolve r.blob) (.ok f) := by
  have hfile : ∀ reading, Steady (Faithful (· = r))
      (fileOf Reading.exit.fail r.blob reading) :=
    steady_fileOf (CommittedTodos.numbered_eq r) rfl
  obtain ⟨diff, hdiff, h⟩ := h.bind_inv hI (steady_call r _) fun diff => by
    rw [changedFiles_eq]
    exact (Steady.mapM fun reading _ => hfile reading).map _
  rw [changedFiles_eq] at h
  obtain ⟨found, hfound, rfl⟩ := h.map_inv hI (Steady.mapM fun reading _ => hfile reading)
  obtain ⟨bs, hbs, hsome, hmem⟩ | ⟨e, he, -⟩ := hfound.mapM_inv hI hfile
  · cases hbs
    refine ⟨diff, call_inv hI hdiff, fun f => ?_⟩
    rw [List.mem_filterMap]
    constructor
    · rintro ⟨f?, hf?, hid⟩
      obtain ⟨reading, hreading, hgives⟩ := hmem f? hf?
      rcases reading with e | _ | e
      · cases hgives.unique hI ((gives_throw (.path e)).bind_error _)
      · cases hgives.unique hI (gives_pure none)
        cases hid
      · obtain ⟨f', hf', rfl⟩ := hgives.map_inv hI
          (steady_resolve (CommittedTodos.numbered_eq r) rfl e)
        cases hid
        exact ⟨e, hreading, hf'⟩
    · rintro ⟨e, he, hgives⟩
      obtain ⟨f?, hf?, hread⟩ := hsome _ he
      cases hread.unique hI (hgives.map some)
      exact ⟨some f, hf?, rfl⟩
  · cases he

theorem resolve_inv {e : Diff.Entry} {f : ChangedFile}
    (h : Gives (Faithful (· = r)) (e.resolve r.blob) (.ok f)) : f.path = e.path ∧
      ∀ c, c ∈ f.changes ↔ ∃ blobId blob, e.wanted? = some blobId ∧
        r.git (blobArgs blobId) = .output blob ∧ ∃ n ∈ e.added, ∃ line,
          rawLine? blob (n : Int) = some line ∧ c = changeOf blobId blob n line := by
  unfold Diff.Entry.resolve at h
  cases hw : e.wanted? with
  | none =>
    rw [hw] at h
    cases h.unique hI (gives_pure _)
    simp [Diff.Entry.file]
  | some blobId =>
    rw [hw] at h
    obtain ⟨blob, hblob, h⟩ := h.bind_inv hI
      (steady_blob (CommittedTodos.numbered_eq r) rfl blobId) fun blob => steady_pure _
    cases h.unique hI (gives_pure _)
    have hprinted := blob_inv hI hblob
    refine ⟨rfl, fun c => ?_⟩
    rw [Diff.Entry.file, mem_changesForLines]
    constructor
    · rintro ⟨n, hn, line, hline, rfl⟩
      obtain ⟨k, hk, rfl⟩ := List.mem_map.mp hn
      exact ⟨blobId, blob, rfl, hprinted, k, hk, line, hline, rfl⟩
    · rintro ⟨blobId', blob', hid, hprinted', k, hk, line, hline, rfl⟩
      cases hid
      cases hprinted.symm.trans hprinted'
      exact ⟨k, List.mem_map.mpr ⟨k, hk, rfl⟩, line, hline, rfl⟩

/-- **Each added line is a change of its commit.** -/
theorem exists_file {commit : Commit} (h : Gives (Faithful (· = r)) (r.commit id) (.ok commit))
    (x : AddedLine r id) :
    ∃ f ∈ commit.files, f.path = x.entry.path ∧ x.change ∈ f.changes := by
  obtain ⟨-, -, hfiles⟩ := commit_inv hI h
  obtain ⟨diff, hdiff, hmem⟩ := mem_changedFiles hI hfiles
  cases x.diff_printed.symm.trans hdiff
  have hblob := gives_blob (CommittedTodos.numbered_eq r) rfl x.blobId
  rw [x.blob_printed] at hblob
  have hresolve : Gives (Faithful (· = r)) (x.entry.resolve r.blob)
      (.ok (x.entry.file (some (x.blobId, x.blob)))) := by
    rw [Diff.Entry.resolve, x.blobId_wanted]
    exact hblob.bind (gives_pure _)
  refine ⟨_, (hmem _).mpr ⟨x.entry, x.entry_mem, hresolve⟩, rfl, ?_⟩
  exact ((resolve_inv hI hresolve).2 _).mpr ⟨x.blobId, x.blob, x.blobId_wanted, x.blob_printed,
    x.number, x.number_mem, x.line, x.line_eq, rfl⟩

/-- **Each change of a commit is an added line.** -/
theorem exists_addedLine {commit : Commit}
    (h : Gives (Faithful (· = r)) (r.commit id) (.ok commit)) {f : ChangedFile}
    (hf : f ∈ commit.files) {c : Change} (hc : c ∈ f.changes) :
    ∃ x : AddedLine r id, x.entry.path = f.path ∧ x.change = c := by
  obtain ⟨-, -, hfiles⟩ := commit_inv hI h
  obtain ⟨diff, hdiff, hmem⟩ := mem_changedFiles hI hfiles
  obtain ⟨e, he, hresolve⟩ := (hmem f).mp hf
  obtain ⟨hpath, hchanges⟩ := resolve_inv hI hresolve
  obtain ⟨blobId, blob, hwanted, hblob, n, hn, line, hline, rfl⟩ := (hchanges c).mp hc
  exact ⟨⟨diff, hdiff, e, he, blobId, hwanted, blob, hblob, n, hn, line, hline⟩, hpath.symm, rfl⟩

end Inversion

end Repository

/-! ### The scan -/

namespace CommittedTodos

/-- The finding for a change of a file whose blob is the given text. -/
def findingOf (rendering : Rendering) (commitId text path source : String) (c : Change) :
    Finding where
  checkId := checkId
  message := rendering.render (message commitId text path source (Utf8.encode source) c)
  path := path
  commitId := some commitId

variable {rendering : Rendering} {r : Repository} {I : Session → Prop}

/-- The blob of a change is known and no text. -/
def NoText (r : Repository) (c : Change) : Prop :=
  ∃ bytes, r.git (blobArgs c.blob) = .output bytes ∧ ∀ source, bytes ≠ Utf8.encode source

/-- The marked changes of the visits are among the findings. -/
def Reported (rendering : Rendering) (r : Repository) (vs : List Visit) (fs : List Finding) :
    Prop :=
  ∀ v ∈ vs, ∀ c ∈ v.marked, ∃ text source, v.commit.message = some text ∧
    r.git (blobArgs c.blob) = .output (Utf8.encode source) ∧
    findingOf rendering v.commit.id text v.file.path source c ∈ fs

/-- A marked change of the visits ends the scan with the failure. -/
def Unreportable (r : Repository) (vs : List Visit) (e : Failure) : Prop :=
  ∃ v ∈ vs, ∃ c ∈ v.marked, NoText r c ∧ e = .violation (.notText c.blob v.file.path)

theorem Reported.mono {vs : List Visit} {fs fs' : List Finding} (h : Reported rendering r vs fs)
    (hsub : fs ⊆ fs') : Reported rendering r vs fs' := by
  intro v hv c hc
  obtain ⟨text, source, hmessage, hblob, hmem⟩ := h v hv c hc
  exact ⟨text, source, hmessage, hblob, hsub hmem⟩

/-! ### Steps of the scan -/

/-- A scan finds what it should, or it fails as it should. -/
def Settles (I : Session → Prop) (x : Reading Outcome) (found : List Finding → Prop)
    (fails : Failure → Prop) : Prop :=
  (∃ fs, Gives I x (.ok (.found fs)) ∧ found fs) ∨ ∃ e, Gives I x (.error e) ∧ fails e

theorem Settles.bind {α : Type} {x : Reading α} {f : α → Reading Outcome} {a : α}
    {found : List Finding → Prop} {fails : Failure → Prop} (hx : Gives I x (.ok a))
    (h : Settles I (f a) found fails) : Settles I (x >>= f) found fails := by
  rcases h with ⟨fs, hf, hfs⟩ | ⟨e, hf, he⟩
  · exact Or.inl ⟨fs, hx.bind hf, hfs⟩
  · exact Or.inr ⟨e, hx.bind hf, he⟩

/-- **One scan after the other.** -/
theorem Settles.andThen {x y : Reading Outcome} {found found' found'' : List Finding → Prop}
    {fails fails' fails'' : Failure → Prop} (hx : Settles I x found fails)
    (hy : Settles I y found' fails')
    (hfound : ∀ here there, found here → found' there → found'' (here ++ there))
    (hfails : ∀ e, fails e → fails'' e) (hfails' : ∀ e, fails' e → fails'' e) :
    Settles I (x >>= Outcome.andThen y) found'' fails'' := by
  rcases hx with ⟨here, hx, hhere⟩ | ⟨e, hx, he⟩
  · rcases hy with ⟨there, hy, hthere⟩ | ⟨e, hy, he⟩
    · exact Or.inl ⟨here ++ there, hx.bind (hy.map _), hfound here there hhere hthere⟩
    · exact Or.inr ⟨e, hx.bind (hy.map_error _), hfails' e he⟩
  · exact Or.inr ⟨e, hx.bind_error _, hfails e he⟩

section Repository

variable {filters : List Filter} (hI : ∃ s, Faithful (· = r) s)

include hI

theorem report_cases {commitId text path : String} {c : Change} {bytes : Bytes}
    (hb : r.git (blobArgs c.blob) = .output bytes) {o : Except Failure Finding}
    (h : Gives (Faithful (· = r)) (report rendering (.repository r) commitId text path c) o) :
    (∃ source, bytes = Utf8.encode source ∧
      o = .ok (findingOf rendering commitId text path source c)) ∨
    ((∀ source, bytes ≠ Utf8.encode source) ∧ o = .error (.violation (.notText c.blob path))) := by
  have hblob := gives_blob (numbered_eq r) rfl c.blob
  rw [hb] at hblob
  cases hd : Utf8.decode bytes with
  | ok source =>
    have hsource := Utf8.decode_eq_ok_iff.mp hd
    subst hsource
    have hreport : Gives (Faithful (· = r)) (report rendering (.repository r) commitId text path c)
        (.ok (findingOf rendering commitId text path source c)) := by
      refine hblob.bind ?_
      rw [hd]
      exact gives_pure _
    exact Or.inl ⟨source, rfl, h.unique hI hreport⟩
  | error e =>
    have hreport : Gives (Faithful (· = r)) (report rendering (.repository r) commitId text path c)
        (.error (.violation (.notText c.blob path))) := by
      refine hblob.bind ?_
      rw [hd]
      exact gives_throw _
    refine Or.inr ⟨fun source hsource => ?_, h.unique hI hreport⟩
    rw [Utf8.decode_eq_ok_iff.mpr hsource] at hd
    cases hd

/-- **One visit** of a file whose blob has been read before. -/
theorem settles_visit {v : Visit} (hkept : ¬ Ignored filters v.file.path)
    (hmessage : v.commit.message ≠ none)
    (hprinted : ∀ c ∈ v.file.changes, ∃ bytes, r.git (blobArgs c.blob) = .output bytes) :
    Settles (Faithful (· = r))
      (visit rendering (.repository r) (fun path => filters.any (·.matchesPath path)) v)
      (Reported rendering r [v]) (Unreportable r [v]) := by
  obtain ⟨text, htext⟩ := Option.ne_none_iff_exists'.mp hmessage
  have hamong : (History.repository r).Among (· = r) := rfl
  have hreport : ∀ c, Steady (Faithful (· = r))
      (report rendering (.repository r) v.commit.id text v.file.path c) :=
    steady_report (numbered_eq r) hamong v.commit.id text v.file.path
  have hblob : ∀ c ∈ v.marked, ∃ bytes, r.git (blobArgs c.blob) = .output bytes :=
    fun c hc => hprinted c (List.mem_of_mem_filter hc)
  rw [visit_of_kept rendering hkept htext]
  obtain ⟨o, ho⟩ := Steady.mapM (l := v.marked) fun c _ => hreport c
  rcases ho.mapM_inv hI hreport with ⟨fs, rfl, hfs, -⟩ | ⟨e, rfl, c, hc, hgives⟩
  · refine Or.inl ⟨fs, ho.map _, fun u hu c hc => ?_⟩
    cases List.mem_singleton.mp hu
    obtain ⟨x, hx, hgives⟩ := hfs c hc
    obtain ⟨bytes, hbytes⟩ := hblob c hc
    rcases report_cases hI hbytes hgives with ⟨source, rfl, hfinding⟩ | ⟨-, herror⟩
    · cases hfinding
      exact ⟨text, source, htext, hbytes, hx⟩
    · cases herror
  · obtain ⟨bytes, hbytes⟩ := hblob c hc
    rcases report_cases hI hbytes hgives with ⟨source, -, hfinding⟩ | ⟨hnone, herror⟩
    · cases hfinding
    · cases herror
      exact Or.inr ⟨_, ho.map_error _, v, List.mem_singleton_self v, c, hc,
        ⟨bytes, hbytes, hnone⟩, rfl⟩

theorem settles_visitAll : ∀ {vs : List Visit}, (∀ v ∈ vs, ¬ Ignored filters v.file.path) →
    (∀ v ∈ vs, v.commit.message ≠ none) →
    (∀ v ∈ vs, ∀ c ∈ v.file.changes, ∃ bytes, r.git (blobArgs c.blob) = .output bytes) →
    Settles (Faithful (· = r))
      (visitAll rendering (.repository r) (fun path => filters.any (·.matchesPath path)) vs)
      (Reported rendering r vs) (Unreportable r vs)
  | [], _, _, _ => Or.inl ⟨[], gives_pure _, by rintro v ⟨⟩⟩
  | v :: vs, hkept, hmessage, hprinted => by
    rw [List.forall_mem_cons] at hkept hmessage hprinted
    have hrest := settles_visitAll hkept.2 hmessage.2 hprinted.2
    refine (settles_visit hI hkept.1 hmessage.1 hprinted.1).andThen hrest ?_ ?_ ?_
    · intro here there hhere hthere u hu
      rcases List.mem_cons.mp hu with rfl | hu
      · exact hhere.mono (List.subset_append_left _ _) u (List.mem_singleton_self u)
      · exact hthere.mono (List.subset_append_right _ _) u hu
    · rintro e ⟨u, hu, hfails⟩
      exact ⟨u, List.mem_cons.mpr (Or.inl (List.mem_singleton.mp hu)), hfails⟩
    · rintro e ⟨u, hu, hfails⟩
      exact ⟨u, List.mem_cons_of_mem v hu, hfails⟩

/-- The files of a commit that has been read. -/
theorem settles_scanFiles {id : String} {commit : Commit}
    (h : Gives (Faithful (· = r)) (r.commit id) (.ok commit)) (hmessage : commit.message ≠ none)
    (hkept : ∀ f ∈ commit.files, ¬ Ignored filters f.path) :
    Settles (Faithful (· = r)) (scanFiles rendering (.repository r)
        (fun path => filters.any (·.matchesPath path)) commit commit.files)
      (Reported rendering r (visits [commit])) (Unreportable r (visits [commit])) := by
  have hvisits : visits [commit] = commit.files.map fun file => ⟨commit, file⟩ := by simp [visits]
  rw [scanFiles_eq_visitAll, ← hvisits]
  refine settles_visitAll hI ?_ ?_ ?_ <;> intro v hv <;> rw [hvisits, List.mem_map] at hv <;>
    obtain ⟨f, hf, rfl⟩ := hv
  · exact hkept f hf
  · exact hmessage
  · intro c hc
    obtain ⟨x, -, rfl⟩ := Repository.exists_addedLine hI h hf hc
    exact ⟨x.blob, x.blob_printed⟩

omit hI in
/-- **The whole scan.** Each commit is read, and what it adds is reported, or one of them ends the
scan. -/
theorem settles_scan : ∀ {ids : List String} {s : Session}, Faithful (· = r) s →
    (∀ commit ∈ r.commitsUntilFailure ids s, commit.message ≠ none ∧
      ∀ f ∈ commit.files, ¬ Ignored filters f.path) →
    Settles (Faithful (· = r)) (scan rendering (.repository r)
        (fun path => filters.any (·.matchesPath path)) (ids.map r.commit))
      (fun fs => ∀ id ∈ ids, ∃ commit, Gives (Faithful (· = r)) (r.commit id) (.ok commit) ∧
        Reported rendering r (visits [commit]) fs)
      (fun e => ∃ id ∈ ids, Gives (Faithful (· = r)) (r.commit id) (.error e) ∨
        ∃ commit, Gives (Faithful (· = r)) (r.commit id) (.ok commit) ∧
          Unreportable r (visits [commit]) e)
  | [], s, _, _ => Or.inl ⟨[], gives_pure _, by rintro id ⟨⟩⟩
  | id :: ids, s, hs, hread => by
    have hI : ∃ s, Faithful (· = r) s := ⟨s, hs⟩
    rw [List.map_cons, scan_cons]
    obtain ⟨o, ho⟩ := steady_commit (numbered_eq r) rfl id
    cases o with
    | error e => exact Or.inr ⟨e, ho.bind_error _, id, List.mem_cons_self, Or.inl ho⟩
    | ok commit =>
      obtain ⟨s', hstart, hs'⟩ := ho s hs
      rw [Repository.commitsUntilFailure, hstart, List.forall_mem_cons] at hread
      refine Settles.bind ho ((settles_scanFiles hI ho hread.1.1 hread.1.2).andThen
        (settles_scan hs' hread.2) ?_ ?_ ?_)
      · intro here there hhere hthere id' hid'
        rcases List.mem_cons.mp hid' with rfl | hid'
        · exact ⟨commit, ho, hhere.mono (List.subset_append_left _ _)⟩
        · obtain ⟨commit', hcommit', hreported⟩ := hthere id' hid'
          exact ⟨commit', hcommit', hreported.mono (List.subset_append_right _ _)⟩
      · exact fun e hfails => ⟨id, List.mem_cons_self, Or.inr ⟨commit, ho, hfails⟩⟩
      · rintro e ⟨id', hid', hfails⟩
        exact ⟨id', List.mem_cons_of_mem id hid', hfails⟩

omit hI in
theorem findings_cases {s : Session} (hs : Faithful (· = r) s)
    (hread : ∀ commit ∈ r.yielded s, commit.message ≠ none ∧
      ∀ f ∈ commit.files, ¬ Ignored filters f.path) :
    (∃ fs ids, Gives (Faithful (· = r)) (findings rendering (.repository r) filters) (.ok fs) ∧
      Gives (Faithful (· = r)) r.commitIds (.ok ids) ∧
      ∀ id ∈ ids, ∃ commit, Gives (Faithful (· = r)) (r.commit id) (.ok commit) ∧
        Reported rendering r (visits [commit]) fs) ∨
    ∃ e, Gives (Faithful (· = r)) (findings rendering (.repository r) filters) (.error e) ∧
      (Gives (Faithful (· = r)) r.commitIds (.error e) ∨
        ∃ ids, Gives (Faithful (· = r)) r.commitIds (.ok ids) ∧
          ∃ id ∈ ids, Gives (Faithful (· = r)) (r.commit id) (.error e) ∨
            ∃ commit, Gives (Faithful (· = r)) (r.commit id) (.ok commit) ∧
              Unreportable r (visits [commit]) e) := by
  rw [findings_repository_eq]
  obtain ⟨o, hids⟩ := steady_commitIds (· = r) r
  cases o with
  | error e => exact Or.inr ⟨e, hids.bind_error _, Or.inl hids⟩
  | ok ids =>
    obtain ⟨s', hstart, hs'⟩ := hids s hs
    rw [Repository.yielded, hstart] at hread
    rcases settles_scan hs' hread with ⟨fs, hscan, hfs⟩ | ⟨e, hscan, he⟩
    · exact Or.inl ⟨fs, ids, hids.bind (hscan.map _), hids, hfs⟩
    · exact Or.inr ⟨e, hids.bind (hscan.map_error _), Or.inr ⟨ids, hids, he⟩⟩

theorem exists_finding {id : String} {commit : Commit} {fs : List Finding}
    (h : Gives (Faithful (· = r)) (r.commit id) (.ok commit))
    (hfs : Reported rendering r (visits [commit]) fs) (x : AddedLine r id)
    (hx : MarkedBytes x.line) : ∃ text source, commit.message = some text ∧
      x.blob = Utf8.encode source ∧
      findingOf rendering id text x.entry.path source x.change ∈ fs := by
  obtain ⟨f, hf, hpath, hc⟩ := Repository.exists_file hI h x
  have hmarked : x.change ∈ Visit.marked ⟨commit, f⟩ := by
    rw [Visit.marked, List.mem_filter, decide_eq_true_eq]
    exact ⟨hc, (marked_changeOf_iff _ _ _ _).mpr hx⟩
  have hv : ⟨commit, f⟩ ∈ visits [commit] := by simpa [visits] using hf
  obtain ⟨text, source, hmessage, hblob, hmem⟩ := hfs _ hv _ hmarked
  have hsource := x.blob_printed.symm.trans hblob
  injection hsource with hsource
  rw [(Repository.commit_inv hI h).1, hpath] at hmem
  exact ⟨text, source, hmessage, hsource, hmem⟩

theorem exists_noText {id : String} {commit : Commit} {e : Failure}
    (h : Gives (Faithful (· = r)) (r.commit id) (.ok commit))
    (he : Unreportable r (visits [commit]) e) : ∃ x : AddedLine r id, MarkedBytes x.line ∧
      (∀ source, x.blob ≠ Utf8.encode source) ∧
      e = .violation (.notText x.blobId x.entry.path) := by
  obtain ⟨v, hv, c, hc, ⟨bytes, hbytes, htext⟩, rfl⟩ := he
  have hfile : v.file ∈ commit.files := by
    simp only [visits, List.flatMap_singleton, List.mem_map] at hv
    obtain ⟨f, hf, rfl⟩ := hv
    exact hf
  rw [Visit.marked, List.mem_filter, decide_eq_true_eq] at hc
  obtain ⟨x, hpath, rfl⟩ := Repository.exists_addedLine hI h hfile hc.1
  cases x.blob_printed.symm.trans hbytes
  exact ⟨x, (marked_changeOf_iff _ _ _ _).mp hc.2, htext, by rw [hpath]; rfl⟩

end Repository

/-- **No marked line is passed over.** One change is built for each line of a blob, and it holds a
mark if and only if the bytes of the line do, whatever they are. Where all commits that are read
have messages and no filter matches a path in them, the check either reports each marked line that
the branch adds, the blobs of which are texts, or it fails because the history cannot be read or
because the blob of a marked line is no text. -/
theorem execute_addedLines (rendering : Rendering) :
    (∀ (id : String) (blob : Bytes) (n : Int),
      (rawLine? blob n = none → changesForLines id blob [n] = []) ∧
      ∀ line, rawLine? blob n = some line →
        ∃ c, changesForLines id blob [n] = [c] ∧ (Marked c ↔ MarkedBytes line)) ∧
    ∀ (r : Repository) (s : Session) (filters : List Filter), Faithful (· = r) s →
      (∀ commit ∈ r.yielded s, commit.message ≠ none ∧
        ∀ f ∈ commit.files, ¬ Ignored filters f.path) →
      (∃ fs ids,
        (((check rendering).execute (.history (.repository r)) filters).start s).1 = .ok fs ∧
        (r.commitIds.start s).1 = .ok ids ∧
        ∀ id ∈ ids, ∀ x : AddedLine r id, MarkedBytes x.line →
          ∃ text source, ((r.commitMessage id).start s).1 = .ok (some text) ∧
            x.blob = Utf8.encode source ∧
            findingOf rendering id text x.entry.path source x.change ∈ fs) ∨
      ∃ e, (((check rendering).execute (.history (.repository r)) filters).start s).1 = .error e ∧
        (r.Unreadable s e ∨ ∃ ids, (r.commitIds.start s).1 = .ok ids ∧
          ∃ id ∈ ids, ∃ x : AddedLine r id, MarkedBytes x.line ∧
            (∀ source, x.blob ≠ Utf8.encode source) ∧
            e = .violation (.notText x.blobId x.entry.path)) := by
  refine ⟨fun id blob n => ⟨fun hnone => ?_, fun line hline => ?_⟩, fun r s filters hs hread => ?_⟩
  · rw [changesForLines_singleton, hnone]
    rfl
  · refine ⟨changeOf id blob n line, ?_, marked_changeOf_iff id blob n line⟩
    rw [changesForLines_singleton, hline]
    rfl
  · have hI : ∃ s, Faithful (· = r) s := ⟨s, hs⟩
    rcases findings_cases hs hread with ⟨fs, ids, hrun, hids, hfs⟩ | ⟨e, hrun, he⟩
    · refine Or.inl ⟨fs, ids, hrun.outcome hs, hids.outcome hs, fun id hid x hx => ?_⟩
      obtain ⟨commit, hcommit, hreported⟩ := hfs id hid
      obtain ⟨text, source, htext, hblob, hmem⟩ := exists_finding hI hcommit hreported x hx
      have hmessage := (Repository.commit_inv hI hcommit).2.1
      rw [htext] at hmessage
      exact ⟨text, source, hmessage.outcome hs, hblob, hmem⟩
    · refine Or.inr ⟨e, hrun.outcome hs, ?_⟩
      rcases he with hids | ⟨ids, hids, id, hid, hcommit | ⟨commit, hcommit, hfails⟩⟩
      · exact Or.inl (Or.inl (hids.outcome hs))
      · exact Or.inl (Or.inr ⟨ids, hids.outcome hs, id, hid, hcommit.outcome hs⟩)
      · exact Or.inr ⟨ids, hids.outcome hs, id, hid, exists_noText hI hcommit hfails⟩

/-- A line with the start of a character right before its mark and a byte of no character behind
it. -/
def faultyLine : Bytes := 0xE2 :: Bytes.ofAscii "// TODO" ++ [0xFF, newline]

/-- A repository with a commit that adds the line to a file. -/
def faultyRepository : Repository where
  git := Recording.git
    { top := []
      commits := [⟨"c", Bytes.ofAscii "m\n", Bytes.ofAscii
        "diff --git a/b.cs b/b.cs\nindex 0..1\n--- a/b.cs\n+++ b/b.cs\n@@ -0,0 +1 @@\n+\n"⟩]
      blobs := [("1", faultyLine)] }
  path := Path.ofString "/r"

def faultyAddedLine : AddedLine faultyRepository "c" where
  diff := _
  diff_printed := rfl
  entry := ⟨"b.cs", some "1", [1]⟩
  entry_mem := by decide +kernel
  blobId := "1"
  blobId_wanted := by decide
  blob := faultyLine
  blob_printed := rfl
  number := 1
  number_mem := by decide
  line := faultyLine
  line_eq := by decide

/-- The mark is seen, and the run fails. -/
theorem execute_addedLines_faulty :
    (∃ x : AddedLine faultyRepository "c", x.line = faultyLine ∧ MarkedBytes x.line) ∧
      ∃ e, (((check .plain).execute (.history (.repository faultyRepository)) []).start {}).1 =
        .error e := by
  have hmarked : MarkedBytes faultyLine :=
    ⟨"// TODO", by decide, [0xE2], [0xFF, newline], by decide⟩
  have hread : ∀ commit ∈ faultyRepository.yielded {}, commit.message ≠ none := by
    have hall : ((faultyRepository.yielded {}).all (·.message.isSome)) = true := by decide +kernel
    intro commit hcommit hnone
    have hsome := List.all_eq_true.mp hall commit hcommit
    rw [hnone] at hsome
    cases hsome
  have hids : (faultyRepository.commitIds.start {}).1 = .ok ["c"] := by decide +kernel
  refine ⟨⟨faultyAddedLine, rfl, hmarked⟩, ?_⟩
  rcases (execute_addedLines .plain).2 faultyRepository {} [] (faithful_default _)
    fun commit hcommit => ⟨hread commit hcommit, by rintro f - ⟨p, ⟨⟩, -⟩⟩ with
    ⟨fs, ids, -, hlisted, hfound⟩ | ⟨e, herror, -⟩
  · cases hids.symm.trans hlisted
    obtain ⟨text, source, -, hsource, -⟩ :=
      hfound "c" (List.mem_singleton_self _) faultyAddedLine hmarked
    have hdecode := Utf8.decode_eq_ok_iff.mpr hsource
    have hfault : (Utf8.decode faultyAddedLine.blob).toOption = none := by decide +kernel
    rw [hdecode] at hfault
    cases hfault
  · exact ⟨e, herror⟩

end CommittedTodos

end HouseRules
