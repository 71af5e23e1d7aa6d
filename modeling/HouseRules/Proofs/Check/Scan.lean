import HouseRules.Check.CommittedTodos
import HouseRules.Proofs.History.Repository

/-! # The scan of a history

The scan has the same outcome from every faithful session (`steady_findings`). If more paths are
ignored, it ends up with what it found before or with nothing at all (`scan_mono`): an ignored path
discards all findings, and up to the first one the scan takes the same steps. -/

namespace HouseRules

open Reading

variable {rs : Repository → Prop}

/-- A history whose repository, if it has one, is among the given ones. -/
def History.Among (rs : Repository → Prop) : History → Prop
  | .repository r => rs r
  | .memory .. => True

namespace History

/-- Reading a blob of a history does not depend on what was read before. -/
theorem steady_blob (hn : Numbered rs) {h : History} (hh : h.Among rs) (id : String) :
    Steady (Faithful rs) (h.blob id) := by
  cases h with
  | repository r => exact HouseRules.steady_blob hn hh id
  | memory commits blobs =>
    refine Steady.bind ⟨_, gives_modify fun _ hs => hs⟩ fun _ => ?_
    cases blobs.find? (·.1 == id) with
    | some q => exact steady_pure q.2
    | none => exact steady_throw _

/-- Neither do the commits, nor what each of them is read as. -/
theorem exists_gives_commits (hn : Numbered rs) {h : History} (hh : h.Among rs) :
    ∃ o, Gives (Faithful rs) h.commits o ∧ ∀ cs, o = .ok cs → ∀ c ∈ cs, Steady (Faithful rs) c := by
  cases h with
  | repository r =>
    obtain ⟨o, ho⟩ := steady_commitIds rs r
    cases o with
    | error e =>
      refine ⟨_, ho.bind_error _, ?_⟩
      rintro cs ⟨⟩
    | ok ids =>
      refine ⟨_, ho.bind (gives_pure (ids.map r.commit)), ?_⟩
      rintro cs ⟨⟩ c hc
      obtain ⟨id, -, rfl⟩ := List.mem_map.mp hc
      exact steady_commit hn hh id
  | memory commits blobs =>
    refine ⟨_, gives_pure (commits.map pure), ?_⟩
    rintro cs ⟨⟩ c hc
    obtain ⟨commit, -, rfl⟩ := List.mem_map.mp hc
    exact steady_pure commit

end History

namespace CommittedTodos

variable {rendering : Rendering} {h : History} {ignored ignored' : String → Bool} {commit : Commit}

/-! ### Steps of the scan -/

namespace Outcome

/-- What is found in front of the rest of a scan. -/
def prepend (here : List Finding) : Outcome → Outcome
  | .ignored => .ignored
  | .found there => .found (here ++ there)

/-- Goes on with the rest of a scan, unless an ignored path was met. -/
def andThen (rest : Reading Outcome) : Outcome → Reading Outcome
  | .ignored => pure .ignored
  | .found here => prepend here <$> rest

/-- What a scan comes to. -/
def findings : Outcome → List Finding
  | .found fs => fs
  | .ignored => []

theorem found_nil_andThen (x : Reading Outcome) : (found []).andThen x = x := by
  have hid : prepend [] = id := by
    funext o
    cases o <;> rfl
  rw [andThen, hid, id_map]

theorem andThen_bind_andThen (o : Outcome) (x y : Reading Outcome) :
    o.andThen x >>= andThen y = o.andThen (x >>= andThen y) := by
  cases o with
  | ignored => rfl
  | found here =>
    simp only [andThen, map_eq_pure_bind, bind_assoc, pure_bind]
    refine bind_congr fun o => ?_
    cases o with
    | ignored => rfl
    | found there =>
      simp only [prepend, bind_assoc, pure_bind]
      refine bind_congr fun o => ?_
      cases o with
      | ignored => rfl
      | found rest => simp

theorem steady_andThen {I : Session → Prop} {rest : Reading Outcome} (h : Steady I rest)
    (o : Outcome) : Steady I (o.andThen rest) := by
  cases o with
  | ignored => exact steady_pure _
  | found here => exact h.map _

end Outcome

theorem scanFiles_of_ignored {f : ChangedFile} (hi : ignored f.path = true)
    (fs : List ChangedFile) :
    scanFiles rendering h ignored commit (f :: fs) = pure .ignored := by
  rw [scanFiles, if_pos hi]

theorem scanFiles_of_not_ignored {f : ChangedFile} (hi : ignored f.path = false)
    (fs : List ChangedFile) :
    scanFiles rendering h ignored commit (f :: fs) = match commit.message with
      | none => throw (.violation (.noMessage commit.id))
      | some text =>
        (f.changes.filter (holdsMark ·.content)).mapM (report rendering h commit.id text f.path) >>=
          fun here => (Outcome.found here).andThen (scanFiles rendering h ignored commit fs) := by
  rw [scanFiles, hi]
  cases commit.message with
  | none => rfl
  | some text =>
    refine bind_congr fun here => ?_
    simp only [Outcome.andThen, map_eq_pure_bind]
    refine bind_congr fun o => ?_
    cases o <;> rfl

theorem scan_cons (c : Reading Commit) (cs : List (Reading Commit)) :
    scan rendering h ignored (c :: cs) = (c >>= fun commit =>
      scanFiles rendering h ignored commit commit.files >>=
        Outcome.andThen (scan rendering h ignored cs)) := by
  rw [scan]
  refine bind_congr fun commit => bind_congr fun o => ?_
  cases o with
  | ignored => rfl
  | found here =>
    simp only [Outcome.andThen, map_eq_pure_bind]
    refine bind_congr fun o => ?_
    cases o <;> rfl

theorem findings_eq (rendering : Rendering) (h : History) (filters : List Filter) :
    findings rendering h filters = (h.commits >>= fun cs =>
      Outcome.findings <$> scan rendering h (fun path => filters.any (·.matchesPath path)) cs) := by
  simp only [findings, map_eq_pure_bind]
  refine bind_congr fun cs => bind_congr fun o => ?_
  cases o <;> rfl

/-- In a repository the names of the commits are read first. -/
theorem findings_repository_eq (rendering : Rendering) (r : Repository) (filters : List Filter) :
    findings rendering (.repository r) filters = (r.commitIds >>= fun ids =>
      Outcome.findings <$> scan rendering (.repository r)
        (fun path => filters.any (·.matchesPath path)) (ids.map r.commit)) := by
  rw [findings_eq]
  simp only [History.commits, bind_assoc, pure_bind]

/-! ### The outcome does not depend on the session -/

theorem steady_report (hn : Numbered rs) (hh : h.Among rs) (commitId text path : String)
    (c : Change) : Steady (Faithful rs) (report rendering h commitId text path c) := by
  refine (h.steady_blob hn hh c.blob).bind fun content => ?_
  cases Utf8.decode content with
  | ok source => exact steady_pure _
  | error e => exact steady_throw _

theorem steady_scanFiles (hn : Numbered rs) (hh : h.Among rs) : ∀ fs : List ChangedFile,
    Steady (Faithful rs) (scanFiles rendering h ignored commit fs)
  | [] => steady_pure _
  | f :: fs => by
    by_cases hi : ignored f.path = true
    · rw [scanFiles_of_ignored hi]
      exact steady_pure _
    · rw [scanFiles_of_not_ignored (Bool.eq_false_iff.mpr hi)]
      cases commit.message with
      | none => exact steady_throw _
      | some text =>
        exact (Steady.mapM fun c _ => steady_report hn hh commit.id text f.path c).bind fun here =>
          Outcome.steady_andThen (steady_scanFiles hn hh fs) (.found here)

theorem steady_scan (hn : Numbered rs) (hh : h.Among rs) :
    ∀ {cs : List (Reading Commit)}, (∀ c ∈ cs, Steady (Faithful rs) c) →
      Steady (Faithful rs) (scan rendering h ignored cs)
  | [], _ => steady_pure _
  | c :: cs, hcs => by
    rw [scan_cons]
    exact (hcs c List.mem_cons_self).bind fun commit =>
      (steady_scanFiles hn hh commit.files).bind
        (Outcome.steady_andThen
          (steady_scan hn hh fun c' hc' => hcs c' (List.mem_cons_of_mem c hc')))

theorem steady_scan_commits (hn : Numbered rs) {r : Repository} (hr : rs r) (ids : List String) :
    Steady (Faithful rs) (scan rendering (.repository r) ignored (ids.map r.commit)) := by
  have hamong : (History.repository r).Among rs := hr
  refine steady_scan hn hamong fun c hc => ?_
  obtain ⟨id, -, rfl⟩ := List.mem_map.mp hc
  exact steady_commit hn hr id

/-- **The findings in a history do not depend on what was read before.** -/
theorem steady_findings (hn : Numbered rs) (hh : h.Among rs) (filters : List Filter) :
    Steady (Faithful rs) (findings rendering h filters) := by
  obtain ⟨o, ho, hcs⟩ := h.exists_gives_commits hn hh
  rw [findings_eq]
  cases o with
  | error e => exact ⟨_, ho.bind_error _⟩
  | ok cs =>
    obtain ⟨o, hscan⟩ := (steady_scan hn hh (hcs cs rfl)).map Outcome.findings
    exact ⟨o, ho.bind hscan⟩

/-! ### More ignored paths -/

section Mono

variable {rs : Repository → Prop} (hn : Numbered rs) (hh : h.Among rs)
  (hI : ∃ s, Faithful rs s) (hle : ∀ path, ignored path = true → ignored' path = true)

include hI in
/-- Behind outcomes of which the second is the first or ignored, so are those of the whole. -/
theorem Outcome.andThen_mono {rest rest' : Reading Outcome} (hr : Steady (Faithful rs) rest)
    (hr' : Steady (Faithful rs) rest')
    (hrest : ∀ {q q' : Outcome}, Gives (Faithful rs) rest (.ok q) →
      Gives (Faithful rs) rest' (.ok q') → q' = q ∨ q' = .ignored)
    {p p' o o' : Outcome} (hp : p' = p ∨ p' = .ignored)
    (ho : Gives (Faithful rs) (p.andThen rest) (.ok o))
    (ho' : Gives (Faithful rs) (p'.andThen rest') (.ok o')) : o' = o ∨ o' = .ignored := by
  rcases hp with rfl | rfl
  · cases p' with
    | ignored =>
      cases ho.unique hI (gives_pure _)
      cases ho'.unique hI (gives_pure _)
      exact Or.inl rfl
    | found here =>
      obtain ⟨q, hq, rfl⟩ := ho.map_inv hI hr
      obtain ⟨q', hq', rfl⟩ := ho'.map_inv hI hr'
      rcases hrest hq hq' with rfl | rfl
      · exact Or.inl rfl
      · exact Or.inr rfl
  · cases ho'.unique hI (gives_pure _)
    exact Or.inr rfl

include hn hh hI hle

/-- **Ignoring more files of a commit keeps what is found or discards it.** -/
theorem scanFiles_mono : ∀ {fs : List ChangedFile} {o o' : Outcome},
    Gives (Faithful rs) (scanFiles rendering h ignored commit fs) (.ok o) →
    Gives (Faithful rs) (scanFiles rendering h ignored' commit fs) (.ok o') →
    o' = o ∨ o' = .ignored
  | [], o, o', ho, ho' => by
    cases ho.unique hI (gives_pure _)
    cases ho'.unique hI (gives_pure _)
    exact Or.inl rfl
  | f :: fs, o, o', ho, ho' => by
    by_cases hi' : ignored' f.path = true
    · rw [scanFiles_of_ignored hi'] at ho'
      cases ho'.unique hI (gives_pure _)
      exact Or.inr rfl
    · have hi : ¬ ignored f.path = true := fun hi => hi' (hle f.path hi)
      rw [scanFiles_of_not_ignored (Bool.eq_false_iff.mpr hi)] at ho
      rw [scanFiles_of_not_ignored (Bool.eq_false_iff.mpr hi')] at ho'
      cases hm : commit.message with
      | none =>
        rw [hm] at ho
        cases ho.unique hI (gives_throw _)
      | some text =>
        rw [hm] at ho ho'
        have hhere : Steady (Faithful rs) ((f.changes.filter (holdsMark ·.content)).mapM
            (report rendering h commit.id text f.path)) :=
          Steady.mapM fun c _ => steady_report hn hh commit.id text f.path c
        have hrest : ∀ ignored, Steady (Faithful rs) (scanFiles rendering h ignored commit fs) :=
          fun _ => steady_scanFiles hn hh fs
        obtain ⟨here, h1, h2⟩ := ho.bind_inv hI hhere fun here =>
          Outcome.steady_andThen (hrest ignored) (.found here)
        obtain ⟨here', h1', h2'⟩ := ho'.bind_inv hI hhere fun here =>
          Outcome.steady_andThen (hrest ignored') (.found here)
        cases h1.unique hI h1'
        exact Outcome.andThen_mono hI (hrest ignored) (hrest ignored') scanFiles_mono (Or.inl rfl)
          h2 h2'

/-- **Ignoring more files of a history keeps what is found or discards it.** -/
theorem scan_mono : ∀ {cs : List (Reading Commit)} {o o' : Outcome},
    (∀ c ∈ cs, Steady (Faithful rs) c) →
    Gives (Faithful rs) (scan rendering h ignored cs) (.ok o) →
    Gives (Faithful rs) (scan rendering h ignored' cs) (.ok o') → o' = o ∨ o' = .ignored
  | [], o, o', _, ho, ho' => by
    cases ho.unique hI (gives_pure _)
    cases ho'.unique hI (gives_pure _)
    exact Or.inl rfl
  | c :: cs, o, o', hcs, ho, ho' => by
    have hcs' : ∀ c' ∈ cs, Steady (Faithful rs) c' := fun c' hc' =>
      hcs c' (List.mem_cons_of_mem c hc')
    have hrest : ∀ ignored, Steady (Faithful rs) (scan rendering h ignored cs) := fun _ =>
      steady_scan hn hh hcs'
    have hfiles : ∀ (ignored : String → Bool) (commit : Commit), Steady (Faithful rs)
        (scanFiles rendering h ignored commit commit.files) := fun _ commit =>
      steady_scanFiles hn hh commit.files
    rw [scan_cons] at ho ho'
    obtain ⟨commit, hc, h1⟩ := ho.bind_inv hI (hcs c List.mem_cons_self) fun commit =>
      (hfiles ignored commit).bind (Outcome.steady_andThen (hrest ignored))
    obtain ⟨commit', hc', h1'⟩ := ho'.bind_inv hI (hcs c List.mem_cons_self) fun commit =>
      (hfiles ignored' commit).bind (Outcome.steady_andThen (hrest ignored'))
    cases hc.unique hI hc'
    obtain ⟨p, hp, h2⟩ := h1.bind_inv hI (hfiles ignored commit)
      (Outcome.steady_andThen (hrest ignored))
    obtain ⟨p', hp', h2'⟩ := h1'.bind_inv hI (hfiles ignored' commit)
      (Outcome.steady_andThen (hrest ignored'))
    exact Outcome.andThen_mono hI (hrest ignored) (hrest ignored') (scan_mono hcs')
      (scanFiles_mono hn hh hI hle hp hp') h2 h2'

end Mono

end CommittedTodos
end HouseRules
