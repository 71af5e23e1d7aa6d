import HouseRules.Proofs.Check.Scan
import HouseRules.Proofs.History.Uncached

/-! # The cache only saves calls

A repository is used step by step: for blobs, for the files of a commit, for all commits, or for the
check of its history. With and without the cache the steps have the same answers and failures
(`perform_cached`). The cache keeps the blobs that were used latest, so git is asked for a blob only
when as many other blobs as the cache holds were read since, or when it was not read at all. -/

namespace HouseRules

open Reading Repository BlobCache

/-! ### The scan -/

namespace CommittedTodos

variable {r : Repository} {rendering : Rendering} {ignored : String → Bool} {commit : Commit}

theorem mirrors_report (commitId text path : String) (c : Change) :
    Mirrors r (report rendering (.repository r) commitId text path c)
      (report rendering (.repository r.uncached) commitId text path c) := by
  refine (mirrors_blob r c.blob).bind fun content => ?_
  cases Utf8.decode content with
  | ok source => exact mirrors_pure _
  | error e => exact mirrors_throw _

theorem Outcome.mirrors_andThen {rest rest' : Reading Outcome} (h : Mirrors r rest rest')
    (o : Outcome) : Mirrors r (o.andThen rest) (o.andThen rest') := by
  cases o with
  | ignored => exact mirrors_pure _
  | found here => exact h.map _

theorem mirrors_scanFiles : ∀ fs : List ChangedFile,
    Mirrors r (scanFiles rendering (.repository r) ignored commit fs)
      (scanFiles rendering (.repository r.uncached) ignored commit fs)
  | [] => mirrors_pure _
  | f :: fs => by
    by_cases hi : ignored f.path = true
    · rw [scanFiles_of_ignored hi, scanFiles_of_ignored hi]
      exact mirrors_pure _
    · have hi' : ignored f.path = false := by simpa using hi
      rw [scanFiles_of_not_ignored hi', scanFiles_of_not_ignored hi']
      cases commit.message with
      | none => exact mirrors_throw _
      | some text =>
        refine (Mirrors.mapM fun c _ => mirrors_report commit.id text f.path c).bind fun here => ?_
        exact Outcome.mirrors_andThen (mirrors_scanFiles fs) (.found here)

theorem mirrors_scan : ∀ ids : List String,
    Mirrors r (scan rendering (.repository r) ignored (ids.map r.commit))
      (scan rendering (.repository r.uncached) ignored (ids.map r.uncached.commit))
  | [] => mirrors_pure _
  | id :: ids => by
    rw [List.map_cons, List.map_cons, scan_cons, scan_cons]
    refine (mirrors_commit r id).bind fun commit => ?_
    exact (mirrors_scanFiles commit.files).bind (Outcome.mirrors_andThen (mirrors_scan ids))

theorem mirrors_findings (r : Repository) (rendering : Rendering) (filters : List Filter) :
    Mirrors r (findings rendering (.repository r) filters)
      (findings rendering (.repository r.uncached) filters) := by
  rw [findings_repository_eq, findings_repository_eq]
  exact (mirrors_commitIds r).bind fun ids => (mirrors_scan ids).map _

end CommittedTodos

/-! ### Steps -/

/-- A use of a repository. -/
inductive Step where
  /-- A blob is read. -/
  | blob (id : String)
  /-- The files of a commit are read. -/
  | changedFiles (id : String)
  /-- All commits are read. -/
  | commits
  /-- The history is checked for marks. -/
  | check (rendering : Rendering) (filters : List Filter)

/-- What a use of a repository gives. -/
inductive Answer where
  /-- The contents of a blob. -/
  | blob (bytes : Bytes)
  /-- The files of a commit. -/
  | changedFiles (fs : List ChangedFile)
  /-- The commits. -/
  | commits (cs : List Commit)
  /-- The findings. -/
  | findings (fs : List Finding)

namespace Repository

variable {r : Repository}

/-- One use of the repository. -/
def step (r : Repository) : Step → Reading Answer
  | .blob id => .blob <$> r.blob id
  | .changedFiles id => .changedFiles <$> r.changedFiles id
  | .commits => do return .commits (← (← r.commitIds).mapM r.commit)
  | .check rendering filters =>
    .findings <$> CommittedTodos.findings rendering (.repository r) filters

/-- Uses of the repository one after the other, also after one has failed: what each of them comes
to, and the session behind them. -/
def perform (r : Repository) : List Step → Session → List (Except Failure Answer) × Session
  | [], s => ([], s)
  | t :: ts, s =>
    let (answer, s) := (r.step t).start s
    let (answers, s) := perform r ts s
    (answer :: answers, s)

theorem mirrors_step (r : Repository) (t : Step) : Mirrors r (r.step t) (r.uncached.step t) := by
  cases t with
  | blob id => exact (mirrors_blob r id).map _
  | changedFiles id => exact (mirrors_changedFiles r id).map _
  | commits =>
    refine (mirrors_commitIds r).bind fun ids => ?_
    exact (Mirrors.mapM fun id _ => mirrors_commit r id).bind fun cs => mirrors_pure _
  | check rendering filters => exact (CommittedTodos.mirrors_findings r rendering filters).map _

/-- A run with the cache is the run without it, as seen with the cache. -/
theorem perform_seen (r : Repository) : ∀ (ts : List Step) {s : Session},
    s.caches r.number = [] → (r.uncached.perform ts s).2.caches r.number = [] ∧
      r.perform ts (r.seen s) = ((r.uncached.perform ts s).1, r.seen (r.uncached.perform ts s).2)
  | [], _, hs => ⟨hs, rfl⟩
  | t :: ts, s, hs => by
    obtain ⟨hempty, hstart⟩ := mirrors_step r t s hs
    obtain ⟨hempty', hrest⟩ := perform_seen r ts hempty
    refine ⟨hempty', ?_⟩
    simp only [perform, hstart, hrest]

/-- Nothing has been seen in a session that has just started. -/
theorem seen_default (r : Repository) : r.seen {} = {} := by
  have hcaches : (fun n => if n = r.number then
      kept r.contentOf r.cacheSize.toNat (r.reads []) else ([] : BlobCache)) = fun _ => [] := by
    funext n
    simp [kept, reads, order]
  simp only [seen, issued, hcaches]

/-- **The cache is invisible except in calls, and keeps what was used latest.** After any steps, in
a session that starts with them, the answers and failures are those that there are without the
cache, and at most as many blobs are kept as the cache may hold. Of the requests, which are the
calls made without the cache, those for blobs are passed on to git only if they are due: the blob
was not read successfully before, or as many others as the cache may hold were since it was read
last. The same holds for one more blob; and if that cannot be read, the kept blobs stay as they
are, and it is due again. -/
theorem perform_cached (r : Repository) (ts : List Step) :
    let cached := r.perform ts {}
    let plain := r.uncached.perform ts {}
    cached.1 = plain.1 ∧
    ((cached.2.caches r.number).length : Int) ≤ max r.cacheSize 0 ∧
    cached.2.calls = r.issued plain.2.calls ∧
    ∀ id,
      ((r.blob id).start cached.2).2.calls =
        (if r.Due plain.2.calls id then [r.entry (blobArgs id)] else []) ++ cached.2.calls ∧
      ∀ e, ((r.blob id).start cached.2).1 = .error e →
        r.Due plain.2.calls id ∧ ((r.blob id).start cached.2).2.caches = cached.2.caches := by
  intro cached plain
  obtain ⟨hempty, hperform⟩ : plain.2.caches r.number = [] ∧
      r.perform ts (r.seen {}) = (plain.1, r.seen plain.2) := perform_seen r ts rfl
  have hcached : cached = (plain.1, r.seen plain.2) := by rwa [seen_default] at hperform
  rw [hcached]
  refine ⟨rfl, ?_, rfl, fun id => ?_⟩
  · have hlength := length_kept_le r.contentOf r.cacheSize.toNat (r.reads plain.2.calls)
    rw [caches_seen]
    omega
  · rw [start_blob_seen r id hempty]
    constructor
    · by_cases hd : r.Due plain.2.calls id
      · rw [if_pos hd]
        exact issued_cons_of_due (asked?_entry_blobArgs id) hd
      · rw [if_neg hd]
        exact issued_cons_of_not_due (asked?_entry_blobArgs id) hd
    · intro e he
      have hp : ¬ r.prints id = true := by
        intro hp
        have hreply : r.reply id = .error e := he
        rw [reply_of_prints hp] at hreply
        cases hreply
      have hreads : r.reads (r.entry (blobArgs id) :: plain.2.calls) = r.reads plain.2.calls :=
        reads_cons_of_not_prints rfl hp _
      refine ⟨Or.inl fun hmem => hp (prints_of_mem_reads hmem), ?_⟩
      simp only [seen, noting, hreads]

end Repository
end HouseRules
