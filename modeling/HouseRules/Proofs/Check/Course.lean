import HouseRules.Proofs.Check.CachedSteps
import HouseRules.Proofs.History.Loads

/-! # The course of the check of a history

A run of the check is a sequence of activities (`course`): the names of the commits are read, then
for one commit after the other its message and its files, and then the findings in it are rendered.
`start_findings_eq` says that the run is this sequence, carried out up to the first failure or
ignored path.

If the blobs that a commit loads fit into the cache, then they are kept as long as its findings are
rendered (`Current`). So all calls for blobs are made while files are read, each of them once, and
none is made for a finding (`findings_course`). -/

namespace HouseRules.CommittedTodos

open Reading Repository
open Diff hiding changedFiles

/-! ### Activities -/

/-- A part of a run of the check. -/
inductive Activity where
  /-- The names of the commits are read. -/
  | names
  /-- The message of a commit is read. -/
  | message (id : String)
  /-- The diff of a commit is read, and with it the blobs of its files. -/
  | files (id : String)
  /-- The finding for a change in a commit is rendered. -/
  | finding (id text path : String) (c : Change)
  /-- An ignored path is met. -/
  | ignore (path : String)
  /-- A commit whose message is not text is met. -/
  | noMessage (id : String)
deriving DecidableEq

variable {rendering : Rendering} {r : Repository} {ignored : String → Bool}

/-- What is done in an activity. -/
def Activity.work (rendering : Rendering) (r : Repository) : Activity → Reading Outcome
  | .names => (fun _ => .found []) <$> r.commitIds
  | .message id => (fun _ => .found []) <$> r.commitMessage id
  | .files id => (fun _ => .found []) <$> r.changedFiles id
  | .finding id text path c =>
    (fun f => .found [f]) <$> report rendering (.repository r) id text path c
  | .ignore _ => pure .ignored
  | .noMessage id => throw (.violation (.noMessage id))

/-- Carries out activities one after the other, up to a failure or an ignored path. -/
def carryOut (rendering : Rendering) (r : Repository) : List Activity → Reading Outcome
  | [] => pure (.found [])
  | a :: as => a.work rendering r >>= Outcome.andThen (carryOut rendering r as)

/-- The activities for the files of a commit. -/
def inFiles (ignored : String → Bool) (commit : Commit) : List ChangedFile → List Activity
  | [] => []
  | f :: fs =>
    if ignored f.path then [.ignore f.path]
    else match commit.message with
      | none => [.noMessage commit.id]
      | some text =>
        (f.changes.filter (holdsMark ·.content)).map (.finding commit.id text f.path) ++
          inFiles ignored commit fs

/-- The activities for a commit. -/
def turn (r : Repository) (ignored : String → Bool) (id : String) : List Activity :=
  .message id :: .files id ::
    match ((r.commit id).start {}).1 with
    | .ok commit => inFiles ignored commit commit.files
    | .error _ => []

/-- The activities of a run, if nothing ends it. -/
def course (r : Repository) (ignored : String → Bool) : List Activity :=
  .names ::
    match (r.commitIds.start {}).1 with
    | .ok ids => ids.flatMap (turn r ignored)
    | .error _ => []

theorem carryOut_append (as bs : List Activity) :
    carryOut rendering r (as ++ bs) =
      carryOut rendering r as >>= Outcome.andThen (carryOut rendering r bs) := by
  induction as with
  | nil =>
    rw [List.nil_append, carryOut, pure_bind, Outcome.found_nil_andThen]
  | cons a as ih =>
    rw [List.cons_append, carryOut, carryOut, ih, bind_assoc]
    refine bind_congr fun o => ?_
    rw [Outcome.andThen_bind_andThen]

theorem carryOut_findings (id text path : String) (cs : List Change) :
    carryOut rendering r (cs.map (.finding id text path)) =
      Outcome.found <$> cs.mapM (report rendering (.repository r) id text path) := by
  induction cs with
  | nil => rfl
  | cons c cs ih =>
    rw [List.map_cons, carryOut, ih, List.mapM_cons]
    simp only [Activity.work, Outcome.andThen, Outcome.prepend, map_eq_pure_bind, bind_assoc,
      pure_bind, List.singleton_append]

/-! ### The run as a course -/

theorem scanFiles_eq_carryOut (commit : Commit) : ∀ fs : List ChangedFile,
    scanFiles rendering (.repository r) ignored commit fs =
      carryOut rendering r (inFiles ignored commit fs)
  | [] => rfl
  | f :: fs => by
    by_cases hi : ignored f.path = true
    · rw [scanFiles_of_ignored hi, inFiles, if_pos hi]
      rfl
    · rw [scanFiles_of_not_ignored (Bool.eq_false_iff.mpr hi), inFiles, if_neg hi]
      cases commit.message with
      | none => rfl
      | some text =>
        simp only [carryOut_append, carryOut_findings, ← scanFiles_eq_carryOut commit fs]
        rw [map_eq_pure_bind, bind_assoc]
        simp only [pure_bind]

/-- Reading a commit is reading its message and then its files. -/
theorem start_commit {id : String} {s s' s'' : Session} {text? : Option String}
    {fs : List ChangedFile} (hm : (r.commitMessage id).start s = (.ok text?, s'))
    (hf : (r.changedFiles id).start s' = (.ok fs, s'')) :
    (r.commit id).start s = (.ok ⟨id, text?, fs⟩, s'') := by
  unfold commit
  rw [start_bind, hm]
  simp only
  rw [start_bind, hf]
  rfl

/-- **The scan is the course of the commits**, in a session that is faithful to git. -/
theorem start_scan_eq : ∀ (ids : List String) {s : Session}, Faithful (· = r) s →
    (scan rendering (.repository r) ignored (ids.map r.commit)).start s =
      (carryOut rendering r (ids.flatMap (turn r ignored))).start s
  | [], _, _ => rfl
  | id :: ids, s, hs => by
    have hn : Numbered (· = r) := by
      rintro _ _ rfl rfl _
      rfl
    have hcommit := steady_commit hn rfl id
    have hturn : carryOut rendering r (turn r ignored id ++ ids.flatMap (turn r ignored)) =
        (r.commitMessage id >>= fun _ => r.changedFiles id >>= fun _ =>
          carryOut rendering r ((match ((r.commit id).start {}).1 with
            | .ok commit => inFiles ignored commit commit.files
            | .error _ => []) ++ ids.flatMap (turn r ignored))) := by
      simp only [turn, List.cons_append, carryOut, Activity.work, map_eq_pure_bind, bind_assoc,
        pure_bind, Outcome.found_nil_andThen]
    have hscan : scan rendering (.repository r) ignored (r.commit id :: ids.map r.commit) =
        (r.commitMessage id >>= fun text? => r.changedFiles id >>= fun fs =>
          scanFiles rendering (.repository r) ignored ⟨id, text?, fs⟩ fs >>=
            Outcome.andThen (scan rendering (.repository r) ignored (ids.map r.commit))) := by
      rw [scan_cons]
      simp only [commit, bind_assoc, pure_bind]
    rw [List.map_cons, List.flatMap_cons, hturn, hscan]
    refine start_bind_congr fun text? s' hm => start_bind_congr fun fs s'' hf => ?_
    -- the commit that was read is the one that the turn is made for
    obtain ⟨t, ht, -⟩ := hcommit.gives_of_start hs (start_commit hm hf) {} (faithful_default _)
    have hs'' := hcommit.holds_of_start hs (start_commit hm hf)
    rw [ht]
    simp only
    rw [carryOut_append, ← scanFiles_eq_carryOut]
    refine start_bind_congr fun o s₃ ho => ?_
    cases o with
    | ignored => rfl
    | found here =>
      have hamong : (History.repository r).Among (· = r) := rfl
      have hs₃ : Faithful (· = r) s₃ := (steady_scanFiles hn hamong fs).holds_of_start hs'' ho
      simp only [Outcome.andThen, start_map, start_scan_eq ids hs₃]

/-- **A run of the check is its course.** -/
theorem start_findings_eq (r : Repository) (rendering : Rendering) (filters : List Filter) :
    (findings rendering (.repository r) filters).start {} =
      (Outcome.findings <$> carryOut rendering r
        (course r fun path => filters.any (·.matchesPath path))).start {} := by
  have hcourse : ∀ ignored, carryOut rendering r (course r ignored) =
      r.commitIds >>= fun _ => carryOut rendering r
        (match (r.commitIds.start {}).1 with
        | .ok ids => ids.flatMap (turn r ignored)
        | .error _ => []) := by
    intro ignored
    simp only [course, carryOut, Activity.work, map_eq_pure_bind, bind_assoc, pure_bind,
      Outcome.found_nil_andThen]
  rw [hcourse, findings_repository_eq, map_bind]
  refine start_bind_congr fun ids s hids => ?_
  have hs : Faithful (· = r) s :=
    (steady_commitIds (· = r) r).holds_of_start (faithful_default _) hids
  rw [hids, start_map, start_map, start_scan_eq ids hs]

/-! ### Calls of an activity -/

/-- The blobs that reading the files of a commit loads fit into the cache. -/
def Fits (r : Repository) (id : String) : Prop :=
  (((r.loads id).filter r.prints).toFinset.card : Int) ≤ r.cacheSize

/-- The calls that an activity makes. Only reading files makes calls for blobs, at most one for each
of them. -/
def Activity.Makes (r : Repository) : Activity → List GitCall → Prop
  | .names, calls =>
    calls <+: [r.entry ["rev-parse", "--verify", "-q", "HEAD"], r.entry ["rev-list", "HEAD"]]
  | .message id, calls => calls = [r.entry ["show", "-s", "--format=%B", id]]
  | .files id, calls => ∃ blobs : List String, blobs.Nodup ∧
      calls = r.entry (diffArgs id) :: blobs.map fun x => r.entry (blobArgs x)
  | .finding .., calls => calls = []
  | .ignore _, calls => calls = []
  | .noMessage _, calls => calls = []

/-- The commit whose files were read last. -/
def Activity.next (current : Option String) : Activity → Option String
  | .files id => some id
  | _ => current

/-- A finding is in a file of the current commit. -/
def Activity.Follows (r : Repository) (current : Option String) : Activity → Prop
  | .finding _ _ _ c => ∃ id, current = some id ∧ c.blob ∈ r.loads id
  | _ => True

/-- All findings are in files of the commit that is current when their turn comes. -/
def Ordered (r : Repository) : Option String → List Activity → Prop
  | _, [] => True
  | current, a :: as => a.Follows r current ∧ Ordered r (a.next current) as

/-- The latest reads are those of the blobs of the current commit, which fit into the cache. -/
def Current (r : Repository) (current : Option String) (calls : List GitCall) : Prop :=
  ∀ id, current = some id → Fits r id ∧ (∀ x ∈ r.loads id, r.prints x = true) ∧
    ∃ latest earlier, r.reads calls = latest ++ earlier ∧ ∀ x, x ∈ latest ↔ x ∈ r.loads id

/-- The activity makes the calls that it should, and has findings rendered only as long as the blobs
of the current commit are kept. -/
structure Activity.Behaves (r : Repository) (current : Option String) (a : Activity)
    (s s' : Session) (o : Except Failure Outcome) : Prop where
  /-- The calls that are made with the cache. -/
  makes : ∃ calls, r.issued s'.calls = calls.reverse ++ r.issued s.calls ∧ a.Makes r calls
  /-- The blobs of the then current commit are kept. -/
  current : ∀ found, o = .ok (.found found) → Current r (a.next current) s'.calls

variable {current : Option String}

theorem Current.of_reads {calls calls' : List GitCall} (h : Current r current calls)
    (hreads : r.reads calls' = r.reads calls) : Current r current calls' := by
  intro id hid
  rw [hreads]
  exact h id hid

/-- A blob of the current commit is not due. -/
theorem Current.not_due {calls : List GitCall} {id x : String} (h : Current r (some id) calls)
    (hx : x ∈ r.loads id) : ¬ r.Due calls x := by
  obtain ⟨hfits, hprints, latest, earlier, hreads, hlatest⟩ := h id rfl
  refine not_due_of_recent hreads ((hlatest x).mpr hx) ?_
  have hsame : latest.toFinset = ((r.loads id).filter r.prints).toFinset := by
    ext y
    simp only [List.mem_toFinset, List.mem_filter, hlatest]
    constructor
    · exact fun hy => ⟨hy, hprints y hy⟩
    · exact fun hy => hy.1
  rwa [hsame]

/-- One more read of a blob of the current commit. -/
theorem Current.cons {calls : List GitCall} {id x : String} (h : Current r (some id) calls)
    (hx : x ∈ r.loads id) : Current r (some id) (r.entry (blobArgs x) :: calls) := by
  rintro _ ⟨⟩
  obtain ⟨hfits, hprints, latest, earlier, hreads, hlatest⟩ := h id rfl
  refine ⟨hfits, hprints, x :: latest, earlier, ?_, ?_⟩
  · rw [reads_cons_of_prints (asked?_entry_blobArgs x) (hprints x hx), hreads]
    rfl
  · intro y
    rw [List.mem_cons, hlatest]
    constructor
    · rintro (rfl | hy)
      · exact hx
      · exact hy
    · exact Or.inr

/-- Calls that ask for no blob are made, and leave what is kept as it is. -/
theorem issued_append_of_none : ∀ {calls : List GitCall} (earlier : List GitCall),
    (∀ c ∈ calls, c.asked? = none) → r.issued (calls ++ earlier) = calls ++ r.issued earlier ∧
      r.reads (calls ++ earlier) = r.reads earlier
  | [], _, _ => ⟨rfl, rfl⟩
  | c :: calls, earlier, h => by
    have hc : c.asked? = none := h c List.mem_cons_self
    obtain ⟨hissued, hreads⟩ :=
      issued_append_of_none earlier fun c' hc' => h c' (List.mem_cons_of_mem c hc')
    constructor
    · rw [List.cons_append, issued_cons_of_none hc, hissued, List.cons_append]
    · rw [List.cons_append, reads_cons_of_none hc, hreads]

theorem start_uncached_commitIds (r : Repository) (s : Session) : ∃ calls,
    calls <+: [r.entry ["rev-parse", "--verify", "-q", "HEAD"], r.entry ["rev-list", "HEAD"]] ∧
      (r.uncached.commitIds.start s).2 = { s with calls := calls.reverse ++ s.calls } := by
  have hgit : r.uncached.git = r.git := rfl
  have hverify : (r.uncached.hasCommits.start s).2 =
      r.noting ["rev-parse", "--verify", "-q", "HEAD"] s := by
    unfold hasCommits
    rw [start_tryCatch, start_bind, start_call, hgit]
    cases r.git ["rev-parse", "--verify", "-q", "HEAD"] <;> rfl
  unfold commitIds
  rw [start_bind]
  rcases hstart : r.uncached.hasCommits.start s with ⟨e | some, s'⟩
  · rw [hstart] at hverify
    exact ⟨[r.entry _], List.cons_prefix_cons.mpr ⟨rfl, List.nil_prefix⟩, hverify⟩
  · rw [hstart] at hverify
    cases some with
    | false => exact ⟨[r.entry _], List.cons_prefix_cons.mpr ⟨rfl, List.nil_prefix⟩, hverify⟩
    | true =>
      refine ⟨_, List.prefix_rfl, ?_⟩
      change ((Utf8.decodeLossy <$> r.uncached.call ["rev-list", "HEAD"] >>= fun output =>
        pure _ : Reading _).start s').2 = _
      rw [start_bind, start_map, start_call, hgit]
      have hs' : s' = r.noting ["rev-parse", "--verify", "-q", "HEAD"] s := hverify
      rw [hs']
      cases r.git ["rev-list", "HEAD"] <;> rfl

theorem start_uncached_commitMessage (r : Repository) (id : String) (s : Session) :
    ((r.uncached.commitMessage id).start s).2 =
      r.noting ["show", "-s", "--format=%B", id] s := by
  have hgit : r.uncached.git = r.git := rfl
  unfold commitMessage
  rw [start_bind, start_call, hgit]
  cases r.git ["show", "-s", "--format=%B", id] with
  | failed code stderr => rfl
  | missing => rfl
  | output raw =>
    simp only [GitReply.toExcept, Except.mapError]
    cases Utf8.decode raw <;> rfl

theorem start_uncached_report (r : Repository) (id text path : String) (c : Change) {s : Session}
    (hs : s.caches r.number = []) :
    ((report rendering (.repository r.uncached) id text path c).start s).2 =
      r.noting (blobArgs c.blob) s := by
  unfold report
  change ((r.uncached.blob c.blob >>= fun content => _ : Reading Finding).start s).2 = _
  rw [start_bind, start_uncached_blob r c.blob hs]
  cases r.reply c.blob with
  | error e => rfl
  | ok content =>
    simp only
    cases Utf8.decode content <;> rfl

/-- **What an activity does**: it makes its calls, and keeps the blobs of the current commit. -/
theorem Activity.behaves_work (rendering : Rendering) (a : Activity) {s : Session}
    (hs : s.caches r.number = []) (hcurrent : Current r current s.calls)
    (hfollows : a.Follows r current) (hfits : ∀ id, a = .files id → Fits r id) :
    a.Behaves r current s ((a.work rendering r.uncached).start s).2
      ((a.work rendering r.uncached).start s).1 := by
  cases a with
  | names =>
    obtain ⟨calls, hcalls, hstart⟩ := start_uncached_commitIds r s
    have hnone : ∀ c ∈ calls.reverse, c.asked? = none := by
      intro c hc
      have hmem := hcalls.subset (List.mem_reverse.mp hc)
      simp only [List.mem_cons, List.not_mem_nil, or_false] at hmem
      rcases hmem with rfl | rfl <;> rfl
    obtain ⟨hissued, hreads⟩ := issued_append_of_none (r := r) s.calls hnone
    rw [work, start_map, hstart]
    exact ⟨⟨calls, hissued, hcalls⟩, fun _ _ => hcurrent.of_reads hreads⟩
  | message id =>
    have hnone : (r.entry ["show", "-s", "--format=%B", id]).asked? = none := rfl
    rw [work, start_map, start_uncached_commitMessage]
    exact ⟨⟨[r.entry _], issued_cons_of_none hnone s.calls, rfl⟩,
      fun _ _ => hcurrent.of_reads (reads_cons_of_none hnone s.calls)⟩
  | files id =>
    have hnone : (r.entry (diffArgs id)).asked? = none := rfl
    obtain ⟨hstart, -⟩ := start_uncached_changedFiles r id hs
    obtain ⟨hdropLast, hread⟩ := loads_orderly r id hs
    have hfit := hfits id rfl
    rw [work, start_map, hstart]
    constructor
    · obtain ⟨blobs, hnodup, -, hissued⟩ :=
        exists_issued_requests (r.entry (diffArgs id) :: s.calls) hdropLast hfit
      refine ⟨r.entry (diffArgs id) :: blobs.map fun x => r.entry (blobArgs x), ?_,
        blobs, hnodup, rfl⟩
      change r.issued ((_ : List GitCall) ++ r.entry (diffArgs id) :: s.calls) = _
      rw [hissued, issued_cons_of_none hnone]
      simp
    · intro found hfound
      rcases hfiles : ((r.uncached.changedFiles id).start s).1 with e | fs
      · rw [hfiles] at hfound
        cases hfound
      · obtain ⟨hprints, -⟩ := hread fs hfiles
        rintro _ ⟨⟩
        refine ⟨hfit, hprints, (r.loads id).reverse, r.reads s.calls, ?_, fun x => List.mem_reverse⟩
        change r.reads ((_ : List GitCall) ++ r.entry (diffArgs id) :: s.calls) = _
        rw [reads_requests, reads_cons_of_none hnone, List.filter_eq_self.mpr hprints]
  | finding id text path c =>
    obtain ⟨id', rfl, hc⟩ := hfollows
    rw [work, start_map, start_uncached_report r id text path c hs]
    exact ⟨⟨[], issued_cons_of_not_due (asked?_entry_blobArgs c.blob) (hcurrent.not_due hc), rfl⟩,
      fun _ _ => hcurrent.cons hc⟩
  | ignore path => exact ⟨⟨[], rfl, rfl⟩, fun _ _ => hcurrent⟩
  | noMessage id => exact ⟨⟨[], rfl, rfl⟩, fun _ _ => hcurrent⟩

/-! ### Calls along the course -/

theorem Activity.mirrors_work (rendering : Rendering) (a : Activity) :
    Mirrors r (a.work rendering r) (a.work rendering r.uncached) := by
  cases a with
  | names => exact (mirrors_commitIds r).map _
  | message id => exact (mirrors_commitMessage r id).map _
  | files id => exact (mirrors_changedFiles r id).map _
  | finding id text path c => exact (mirrors_report id text path c).map _
  | ignore path => exact mirrors_pure _
  | noMessage id => exact mirrors_throw _

/-- **Along the course** the blobs of the current commit are kept. -/
theorem exists_current_of_reached {s' : Session} {after : List Activity} :
    ∀ {before : List Activity} {current : Option String} {s : Session} {found : List Finding},
      s.caches r.number = [] → Current r current s.calls → Ordered r current (before ++ after) →
      (∀ id, .files id ∈ before → Fits r id) →
      (carryOut rendering r before).start (r.seen s) = (.ok (.found found), s') →
      ∃ current' t, s' = r.seen t ∧ t.caches r.number = [] ∧ Current r current' t.calls ∧
        Ordered r current' after
  | [], current, s, found, hs, hcurrent, hordered, _, hreached => by
    cases hreached
    exact ⟨current, s, rfl, hs, hcurrent, hordered⟩
  | a :: before, current, s, found, hs, hcurrent, hordered, hfits, hreached => by
    obtain ⟨hfollows, hordered⟩ := hordered
    obtain ⟨hempty, hwork⟩ := a.mirrors_work rendering s hs
    obtain ⟨-, hnext⟩ := a.behaves_work rendering hs hcurrent hfollows
      fun id hid => hfits id (hid ▸ List.mem_cons_self)
    rw [carryOut, start_bind, hwork] at hreached
    rcases hstart : (a.work rendering r.uncached).start s with ⟨e | here | _, t⟩ <;>
      rw [hstart] at hreached hempty hnext
    · cases hreached
    · have hrest := hreached
      change (Outcome.prepend here <$> carryOut rendering r before).start (r.seen t) = _ at hrest
      rw [start_map] at hrest
      rcases hbefore : (carryOut rendering r before).start (r.seen t) with ⟨e | there | _, s''⟩ <;>
        rw [hbefore] at hrest <;> cases hrest
      exact exists_current_of_reached hempty (hnext here rfl) hordered
        (fun id hid => hfits id (List.mem_cons_of_mem a hid)) hbefore
    · cases hreached

theorem ordered_append {bs : List Activity} (hbs : ∀ current, Ordered r current bs) :
    ∀ {as : List Activity} {current : Option String}, Ordered r current as →
      Ordered r current (as ++ bs)
  | [], current, _ => hbs current
  | _ :: _, _, ⟨hfollows, has⟩ => ⟨hfollows, ordered_append hbs has⟩

theorem ordered_inFiles {id : String} {commit : Commit} : ∀ {fs : List ChangedFile},
    (∀ f ∈ fs, ∀ c ∈ f.changes, c.blob ∈ r.loads id) →
      Ordered r (some id) (inFiles ignored commit fs)
  | [], _ => trivial
  | f :: fs, h => by
    have hfs : Ordered r (some id) (inFiles ignored commit fs) :=
      ordered_inFiles fun f' hf' => h f' (List.mem_cons_of_mem f hf')
    rw [inFiles]
    split
    · exact ⟨trivial, trivial⟩
    · cases commit.message with
      | none => exact ⟨trivial, trivial⟩
      | some text =>
        have hfindings : ∀ cs : List Change, (∀ c ∈ cs, c.blob ∈ r.loads id) →
            Ordered r (some id) (cs.map (.finding commit.id text f.path) ++
              inFiles ignored commit fs) := by
          intro cs hcs
          induction cs with
          | nil => exact hfs
          | cons c cs ih =>
            exact ⟨⟨id, rfl, hcs c List.mem_cons_self⟩,
              ih fun c' hc' => hcs c' (List.mem_cons_of_mem c hc')⟩
        refine hfindings _ fun c hc => ?_
        exact h f List.mem_cons_self c (List.mem_filter.mp hc).1

theorem ordered_turn (r : Repository) (ignored : String → Bool) (id : String)
    (current : Option String) : Ordered r current (turn r ignored id) := by
  refine ⟨trivial, trivial, ?_⟩
  rcases hcommit : (r.commit id).start {} with ⟨e | commit, s⟩
  · exact trivial
  · -- the files of the commit are those that are read without the cache
    have hmirrors := (mirrors_commit r id {} rfl).2
    rw [seen_default, hcommit] at hmirrors
    have huncached : ((r.uncached.commit id).start {}).1 = .ok commit :=
      (congrArg Prod.fst hmirrors).symm
    unfold Repository.commit at huncached
    rw [start_bind] at huncached
    rcases hmessage : (r.uncached.commitMessage id).start {} with ⟨e | text?, s'⟩ <;>
      rw [hmessage] at huncached
    · cases huncached
    · simp only [start_bind] at huncached
      rcases hfiles : (r.uncached.changedFiles id).start s' with ⟨e | fs, s''⟩ <;>
        rw [hfiles] at huncached
      · cases huncached
      · cases huncached
        have hs' : s'.caches r.number = [] := by
          have hempty := (mirrors_commitMessage r id {} rfl).1
          rwa [hmessage] at hempty
        exact ordered_inFiles ((loads_orderly r id hs').2 fs (congrArg Prod.fst hfiles)).2

theorem ordered_course (r : Repository) (ignored : String → Bool) :
    Ordered r none (course r ignored) := by
  refine ⟨trivial, ?_⟩
  cases (r.commitIds.start {}).1 with
  | error e => exact trivial
  | ok ids =>
    have hids : ∀ (ids : List String) (current : Option String),
        Ordered r current (ids.flatMap (turn r ignored)) := by
      intro ids
      induction ids with
      | nil => exact fun _ => trivial
      | cons id ids ih =>
        intro current
        exact ordered_append ih (ordered_turn r ignored id current)
    exact hids ids _

/-- Behind a failure or an ignored path nothing is done. -/
theorem start_carryOut_append {as bs : List Activity} {s : Session}
    (h : ∀ found s', (carryOut rendering r as).start s ≠ (.ok (.found found), s')) :
    (carryOut rendering r (as ++ bs)).start s = (carryOut rendering r as).start s := by
  rw [carryOut_append, start_bind]
  rcases hstart : (carryOut rendering r as).start s with ⟨e | found | _, s'⟩
  · rfl
  · exact absurd hstart (h found s')
  · rfl

/-- **Findings cost no calls, and the check is lazy.** A run of the check in a fresh session is its
course, carried out up to the first failure or ignored path. Wherever it gets to an activity, and
for all commits whose files were read until then the loaded blobs fit into the cache, that activity
makes its own calls only: calls for blobs while the files of a commit are read, for no blob twice,
and none while a finding is rendered. Where it ends, nothing of what is left of the course is
done. -/
theorem findings_course (r : Repository) (rendering : Rendering) (filters : List Filter) :
    let activities := course r fun path => filters.any (·.matchesPath path)
    (findings rendering (.repository r) filters).start {} =
      (Outcome.findings <$> carryOut rendering r activities).start {} ∧
    ∀ before a after, activities = before ++ a :: after →
      (∀ found s, (carryOut rendering r before).start {} = (.ok (.found found), s) →
        (∀ id, .files id ∈ before ++ [a] → Fits r id) →
        ∃ calls, ((a.work rendering r).start s).2.calls = calls.reverse ++ s.calls ∧
          a.Makes r calls) ∧
      ((∀ found s, (carryOut rendering r before).start {} ≠ (.ok (.found found), s)) →
        (carryOut rendering r activities).start {} = (carryOut rendering r before).start {}) := by
  intro activities
  refine ⟨start_findings_eq r rendering filters, ?_⟩
  intro before a after hsplit
  constructor
  · intro found s hreached hfits
    have hordered : Ordered r none (before ++ a :: after) := hsplit ▸ ordered_course r _
    have hnone : Current r none (({} : Session).calls) := by
      rintro id ⟨⟩
    rw [← seen_default r] at hreached
    obtain ⟨current, t, rfl, ht, hcurrent, hfollows, -⟩ :=
      exists_current_of_reached rfl hnone hordered
        (fun id hid => hfits id (List.mem_append_left _ hid)) hreached
    obtain ⟨⟨calls, hcalls, hmakes⟩, -⟩ := a.behaves_work rendering ht hcurrent
      hfollows fun id hid => hfits id (by simp [hid])
    rw [(a.mirrors_work rendering t ht).2]
    exact ⟨calls, hcalls, hmakes⟩
  · intro hended
    rw [hsplit]
    exact start_carryOut_append hended

/-- A repository that keeps one blob, with a commit that adds it under two names. -/
def twinRepository : Repository where
  git := Recording.git
    { top := []
      commits := [⟨"c", Bytes.ofAscii "m\n", Bytes.ofAscii
        ("diff --git a/a b/a\nindex 0..1\n--- a/a\n+++ b/a\n@@ -0,0 +1 @@\n+// TODO\n" ++
          "diff --git a/b b/b\nindex 0..1\n--- a/b\n+++ b/b\n@@ -0,0 +1 @@\n+// TODO\n")⟩]
      blobs := [("1", Bytes.ofAscii "// TODO\n")] }
  path := Path.ofString "/r"
  cacheSize := 1

/-- The second of the two files is read and its finding rendered without a call. -/
theorem findings_course_twins :
    let c : Change := ⟨"// TODO\n", ⟨0, 8⟩, "1"⟩
    let before : List Activity :=
      [.names, .message "c", .files "c", .finding "c" "m" "a" c]
    (course twinRepository fun path => ([] : List Filter).any (·.matchesPath path)) =
      before ++ .finding "c" "m" "b" c :: [] ∧
    (∀ id, .files id ∈ before ++ [.finding "c" "m" "b" c] → Fits twinRepository id) ∧
    ∃ found s, (carryOut .plain twinRepository before).start {} = (.ok (.found found), s) ∧
      (((Activity.finding "c" "m" "b" c).work .plain twinRepository).start s).2.calls =
        s.calls := by
  intro c before
  have hcourse : (course twinRepository fun path => ([] : List Filter).any (·.matchesPath path)) =
      before ++ .finding "c" "m" "b" c :: [] := by decide +kernel
  have hfits : ∀ id, .files id ∈ before ++ [.finding "c" "m" "b" c] → Fits twinRepository id := by
    intro id hid
    have hc : id = "c" := by simpa [before] using hid
    rw [hc]
    have hcard : ((twinRepository.loads "c").filter twinRepository.prints).toFinset.card = 1 := by
      decide +kernel
    rw [Fits, hcard]
    decide
  refine ⟨hcourse, hfits, ?_⟩
  have hfound : (match ((carryOut .plain twinRepository before).start {}).1 with
      | .ok (.found _) => true
      | _ => false) = true := by decide +kernel
  rcases hstart : (carryOut .plain twinRepository before).start {} with ⟨e | found | _, s⟩ <;>
    rw [hstart] at hfound
  · cases hfound
  · refine ⟨found, s, rfl, ?_⟩
    obtain ⟨-, hstep⟩ := findings_course twinRepository .plain []
    obtain ⟨calls, hcalls, rfl⟩ := (hstep before _ [] hcourse).1 found s hstart hfits
    exact hcalls
  · cases hfound

end HouseRules.CommittedTodos
