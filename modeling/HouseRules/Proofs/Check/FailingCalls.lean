import HouseRules.Proofs.Check.Scan
import HouseRules.Proofs.History.Uncached

/-! # Failing calls

Going through a history makes calls of git, each of which may fail. A computation surfaces its
failures (`Surfaces`) if a call that fails is the last one that it makes and ends it with the error
of that call, and if no error of git comes from anywhere else. All reading of commits, files and
blobs is of this kind, and so is the scan for marks.

The question whether there are commits at all is not: whatever its call fails with counts as no. So
the names of the commits, the commits and the findings of a repository surface all failures behind
that question, and are empty if that question fails (`enumeration_failures`), also where there is no
git to call (`enumeration_without_git`). -/

namespace HouseRules

open Reading

namespace Repository

variable {α β : Type} {r : Repository}

/-- The error of a call, if it fails. -/
def errorOf? (r : Repository) (c : GitCall) : Option GitError :=
  match (r.git c.args).toExcept c.args with
  | .ok _ => none
  | .error e => some e

/-- The outcome of a computation reports the failures of the calls that it made, given with the
latest first. -/
structure Reports (r : Repository) (made : List GitCall) (o : Except Failure α) : Prop where
  /-- A call that fails ends the computation with its error. -/
  raised : ∀ c ∈ made, ∀ e, r.errorOf? c = some e → o = .error (.git e)
  /-- An error of git is that of the latest call, and all earlier ones succeeded. -/
  caused : ∀ e, o = .error (.git e) → ∃ c earlier, made = c :: earlier ∧ r.errorOf? c = some e ∧
    ∀ c' ∈ earlier, r.errorOf? c' = none

/-- The computation reports the failures of its calls. -/
def Surfaces (r : Repository) (x : Reading α) : Prop :=
  ∀ s, ∃ made, (x.start s).2.calls = made ++ s.calls ∧ r.Reports made (x.start s).1

/-! ### Computations that surface failures -/

/-- Without an error of git all calls succeeded. -/
theorem Reports.errorOf?_eq_none {made : List GitCall} {o : Except Failure α}
    (h : r.Reports made o) (ho : ∀ e, o ≠ .error (.git e)) : ∀ c ∈ made, r.errorOf? c = none := by
  intro c hc
  by_contra hsome
  obtain ⟨e, he⟩ := Option.ne_none_iff_exists'.mp hsome
  exact ho e (h.raised c hc e he)

theorem reports_nil {o : Except Failure α} (ho : ∀ e, o ≠ .error (.git e)) : r.Reports [] o := by
  refine ⟨fun c hc => ?_, fun e he => absurd he (ho e)⟩
  cases hc

theorem surfaces_pure (a : α) : r.Surfaces (pure a) :=
  fun _ => ⟨[], rfl, reports_nil (by rintro e ⟨⟩)⟩

theorem surfaces_throw {e : Failure} (he : ∀ e', e ≠ .git e') :
    r.Surfaces (throw e : Reading α) := by
  refine fun _ => ⟨[], rfl, reports_nil fun e' h => ?_⟩
  exact he e' (Except.error.inj h)

/-- **Two steps surface failures if each of them does.** The second is only taken if no call of the
first failed. -/
theorem Surfaces.bind {x : Reading α} {f : α → Reading β} (hx : r.Surfaces x)
    (hf : ∀ a, r.Surfaces (f a)) : r.Surfaces (x >>= f) := by
  intro s
  obtain ⟨made, hmade, hreports⟩ := hx s
  rw [start_bind]
  rcases hstart : x.start s with ⟨e | a, s'⟩ <;> rw [hstart] at hmade hreports
  · refine ⟨made, hmade, fun c hc e' he' => ?_, fun e' he' => ?_⟩
    · exact congrArg Except.error (Except.error.inj (hreports.raised c hc e' he'))
    · exact hreports.caused e' (congrArg Except.error (Except.error.inj he'))
  · have hnone := hreports.errorOf?_eq_none (by rintro e ⟨⟩)
    obtain ⟨made', hmade', hreports'⟩ := hf a s'
    have hmade₀ : s'.calls = made ++ s.calls := hmade
    refine ⟨made' ++ made, ?_, fun c hc e he => ?_, fun e he => ?_⟩
    · simp only [hmade', hmade₀, List.append_assoc]
    · rcases List.mem_append.mp hc with hc | hc
      · exact hreports'.raised c hc e he
      · rw [hnone c hc] at he
        cases he
    · obtain ⟨c, earlier, rfl, hc, hearlier⟩ := hreports'.caused e he
      refine ⟨c, earlier ++ made, rfl, hc, fun c' hc' => ?_⟩
      rcases List.mem_append.mp hc' with hc' | hc'
      · exact hearlier c' hc'
      · exact hnone c' hc'

theorem Surfaces.map {x : Reading α} (hx : r.Surfaces x) (f : α → β) : r.Surfaces (f <$> x) := by
  rw [map_eq_pure_bind]
  exact hx.bind fun a => surfaces_pure (f a)

theorem Surfaces.mapM {f : α → Reading β} (hf : ∀ a, r.Surfaces (f a)) :
    ∀ l : List α, r.Surfaces (l.mapM f)
  | [] => surfaces_pure []
  | a :: l => by
    rw [List.mapM_cons]
    exact (hf a).bind fun b => (Surfaces.mapM hf l).bind fun bs => surfaces_pure (b :: bs)

/-! ### Reading a history -/

theorem reports_call (r : Repository) (args : List String) :
    r.Reports [r.entry args] (((r.git args).toExcept args).mapError .git) := by
  have herror : r.errorOf? (r.entry args) = match (r.git args).toExcept args with
      | .ok _ => none
      | .error e => some e := rfl
  cases hreply : (r.git args).toExcept args with
  | ok bytes =>
    rw [hreply] at herror
    refine ⟨fun c hc e he => ?_, fun e he => by cases he⟩
    rw [List.mem_singleton.mp hc, herror] at he
    cases he
  | error e =>
    rw [hreply] at herror
    refine ⟨fun c hc e' he' => ?_, fun e' he' => ?_⟩
    · rw [List.mem_singleton.mp hc, herror] at he'
      rw [Option.some.inj he']
      rfl
    · cases he'
      exact ⟨_, [], rfl, herror, fun _ h => by cases h⟩

theorem surfaces_call (r : Repository) (args : List String) : r.Surfaces (r.call args) := by
  intro s
  rw [start_call]
  exact ⟨[r.entry args], rfl, reports_call r args⟩

/-- A blob that is kept takes no call, and one that is not takes one. -/
theorem surfaces_blob (r : Repository) (id : String) : r.Surfaces (r.blob id) := by
  intro s
  cases hkept : (s.caches r.number).get? id with
  | some bytes =>
    rw [start_blob_of_kept hkept]
    exact ⟨[], rfl, reports_nil (by rintro e ⟨⟩)⟩
  | none =>
    rw [start_blob_of_not_kept hkept]
    refine ⟨[r.entry (blobArgs id)], ?_, reports_call r (blobArgs id)⟩
    simp only
    split <;> rfl

theorem surfaces_commitMessage (r : Repository) (id : String) :
    r.Surfaces (r.commitMessage id) := by
  refine (surfaces_call r _).bind fun raw => ?_
  cases Utf8.decode raw with
  | ok text => exact surfaces_pure _
  | error e => exact surfaces_pure none

theorem surfaces_changedFiles (r : Repository) (id : String) : r.Surfaces (r.changedFiles id) := by
  refine (surfaces_call r _).bind fun output => ?_
  have hfail : ∀ {α : Type} (e : Diff.PathError), r.Surfaces (Reading.exit.fail (α := α) e) := by
    intro α e
    refine surfaces_throw ?_
    rintro e' ⟨⟩
  -- a property of one computation is a relation that does not look at the other
  exact @Diff.changedFiles_related Reading Reading _ _ _ _ (fun x _ => r.Surfaces x)
    surfaces_pure Surfaces.bind _ Reading.exit _ r.blob hfail (surfaces_blob r) output

theorem surfaces_commit (r : Repository) (id : String) : r.Surfaces (r.commit id) :=
  (surfaces_commitMessage r id).bind fun _ =>
    (surfaces_changedFiles r id).bind fun _ => surfaces_pure _

end Repository

/-! ### The scan for marks -/

namespace CommittedTodos

open Repository

variable {r : Repository} {rendering : Rendering} {ignored : String → Bool} {commit : Commit}

theorem surfaces_report (commitId text path : String) (c : Change) :
    r.Surfaces (report rendering (.repository r) commitId text path c) := by
  refine (surfaces_blob r c.blob).bind fun content => ?_
  cases Utf8.decode content with
  | ok source => exact surfaces_pure _
  | error e => exact surfaces_throw (by rintro e' ⟨⟩)

theorem Outcome.surfaces_andThen {rest : Reading Outcome} (h : r.Surfaces rest) (o : Outcome) :
    r.Surfaces (o.andThen rest) := by
  cases o with
  | ignored => exact surfaces_pure _
  | found here => exact h.map _

theorem surfaces_scanFiles : ∀ fs : List ChangedFile,
    r.Surfaces (scanFiles rendering (.repository r) ignored commit fs)
  | [] => surfaces_pure _
  | f :: fs => by
    by_cases hi : ignored f.path = true
    · rw [scanFiles_of_ignored hi]
      exact surfaces_pure _
    · rw [scanFiles_of_not_ignored (Bool.eq_false_iff.mpr hi)]
      cases commit.message with
      | none => exact surfaces_throw (by rintro e ⟨⟩)
      | some text =>
        refine (Surfaces.mapM (surfaces_report commit.id text f.path) _).bind fun here => ?_
        exact Outcome.surfaces_andThen (surfaces_scanFiles fs) (.found here)

theorem surfaces_scan : ∀ ids : List String,
    r.Surfaces (scan rendering (.repository r) ignored (ids.map r.commit))
  | [] => surfaces_pure _
  | id :: ids => by
    rw [List.map_cons, scan_cons]
    refine (surfaces_commit r id).bind fun commit => ?_
    exact (surfaces_scanFiles commit.files).bind (Outcome.surfaces_andThen (surfaces_scan ids))

end CommittedTodos

/-! ### Going through a history -/

namespace Repository

variable {α β : Type} {r : Repository}

/-- The arguments that ask for the latest commit. -/
def headArgs : List String := ["rev-parse", "--verify", "-q", "HEAD"]

/-- Git names a latest commit. -/
def HasHead (r : Repository) : Prop := ∃ bytes, r.git headArgs = .output bytes

/-- How going through a history treats failing calls. -/
structure Enumerates (r : Repository) (x : Reading (List α)) : Prop where
  /-- Behind the question for the latest commit all failures are reported. -/
  surfaces : r.HasHead → r.Surfaces x
  /-- If that question fails, for whatever reason, nothing else is called and nothing is found. -/
  empty : ¬ r.HasHead → ∀ s, x.start s = (.ok [], r.noting headArgs s)

theorem start_hasCommits (hhead : r.HasHead) (s : Session) :
    r.hasCommits.start s = (.ok true, r.noting headArgs s) := by
  obtain ⟨bytes, hgit⟩ := hhead
  rw [headArgs] at hgit
  unfold hasCommits
  rw [start_tryCatch, start_bind, start_call, hgit]
  rfl

theorem start_hasCommits_of_not_hasHead (hhead : ¬ r.HasHead) (s : Session) :
    r.hasCommits.start s = (.ok false, r.noting headArgs s) := by
  unfold hasCommits
  rw [start_tryCatch, start_bind, start_call]
  cases hgit : r.git ["rev-parse", "--verify", "-q", "HEAD"] with
  | output bytes => exact absurd ⟨bytes, hgit⟩ hhead
  | failed code stderr => rfl
  | missing => rfl

theorem surfaces_hasCommits (hhead : r.HasHead) : r.Surfaces r.hasCommits := by
  intro s
  obtain ⟨bytes, hgit⟩ := hhead
  have hreports := reports_call r headArgs
  rw [hgit] at hreports
  rw [start_hasCommits ⟨bytes, hgit⟩ s]
  refine ⟨[r.entry headArgs], rfl, fun c hc e he => ?_, by rintro e ⟨⟩⟩
  exact absurd (hreports.raised c hc e he) (by rintro ⟨⟩)

theorem enumerates_commitIds (r : Repository) : r.Enumerates r.commitIds := by
  constructor
  · intro hhead
    refine (surfaces_hasCommits hhead).bind fun some => ?_
    cases some with
    | false => exact surfaces_pure []
    | true => exact ((surfaces_call r _).map _).bind fun output => surfaces_pure _
  · intro hhead s
    unfold commitIds
    rw [start_bind, start_hasCommits_of_not_hasHead hhead s]
    rfl

/-- What is done for each commit keeps the treatment of failing calls. -/
theorem Enumerates.bind {x : Reading (List α)} {f : List α → Reading (List β)}
    (hx : r.Enumerates x) (hf : ∀ l, r.Surfaces (f l)) (hnil : f [] = pure []) :
    r.Enumerates (x >>= f) := by
  refine ⟨fun hhead => (hx.surfaces hhead).bind hf, fun hhead s => ?_⟩
  rw [start_bind, hx.empty hhead s]
  simp only [hnil]
  rfl

/-- The commits of the current branch, the latest first, all of them read. -/
def allCommits (r : Repository) : Reading (List Commit) := do (← r.commitIds).mapM r.commit

/-- **A failing call is reported, unless it asks for the latest commit.** This holds for the names
of the commits of a repository, for the commits and for the findings of the check for marks. Where
git names a latest commit, a call that fails is the last one that is made, and its error is the
outcome; and no error of git has another cause. Where the question for the latest commit fails,
which is so before the first commit, there are no names, no commits and no findings, and no other
call is made. -/
theorem enumeration_failures (r : Repository) (rendering : Rendering) (filters : List Filter) :
    r.Enumerates r.commitIds ∧ r.Enumerates r.allCommits ∧
      r.Enumerates (CommittedTodos.findings rendering (.repository r) filters) := by
  refine ⟨enumerates_commitIds r, ?_, ?_⟩
  · exact (enumerates_commitIds r).bind (Surfaces.mapM (surfaces_commit r)) rfl
  · rw [CommittedTodos.findings_repository_eq]
    exact (enumerates_commitIds r).bind (fun ids => (CommittedTodos.surfaces_scan ids).map _) rfl

/-- A repository without a git to call. -/
def gitlessRepository : Repository where
  git := fun _ => .missing
  path := Path.ofString "/repo"

/-- Where there is no git the history counts as empty, though the only call failed. -/
theorem enumeration_without_git :
    gitlessRepository.errorOf? (gitlessRepository.entry headArgs) = some .missing ∧
    gitlessRepository.commitIds.start {} = (.ok [], gitlessRepository.noting headArgs {}) ∧
    gitlessRepository.allCommits.start {} = (.ok [], gitlessRepository.noting headArgs {}) ∧
    (CommittedTodos.findings .plain (.repository gitlessRepository) []).start {} =
      (.ok [], gitlessRepository.noting headArgs {}) :=
  ⟨rfl, rfl, rfl, rfl⟩

end Repository
end HouseRules
