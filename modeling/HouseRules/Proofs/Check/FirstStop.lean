import HouseRules.Proofs.Check.Scan
import HouseRules.Proofs.Text.Search
import HouseRules.Proofs.Text.Utf8
import Mathlib.Data.List.Forall2
import Mathlib.Data.List.Infix

/-! # The first stop of a scan

The scan of a history that is held in memory goes through the files of all commits, one visit after
the other (`scan_memory_eq`). A visit passes, or it stops the scan (`passes_or_stops`): because the
path is ignored, because the commit has no message, or because of the first marked line whose blob
is unknown or no text. What the visits in front of a stop find is lost (`start_visitAll_stop`);
without a stop each marked line is reported (`start_visitAll_passes`).

Each step is followed together with the blobs that it reads (`Session.noting`), so
`execute_memory` says also which blobs the whole scan reads, and in which order. -/

namespace HouseRules

open Reading

/-- The session after blobs of a history in memory have been read. -/
def Session.noting (s : Session) (ids : List String) : Session :=
  { s with reads := ids.reverse ++ s.reads }

theorem Session.noting_noting (s : Session) (ids ids' : List String) :
    (s.noting ids).noting ids' = s.noting (ids ++ ids') := by
  simp [noting]

theorem History.start_blob_memory (commits : List Commit) (blobs : List (String × Bytes))
    (id : String) (s : Session) : ((memory commits blobs).blob id).start s =
      (match blobs.lookup id with
        | some bytes => .ok bytes
        | none => .error (.unknownBlob id), s.noting [id]) := by
  rw [← Search.map_find?_key, blob, start_bind]
  cases blobs.find? (·.1 == id) <;> rfl

namespace CommittedTodos

/-! ### Visits -/

/-- A file that a commit touches, with the commit. -/
structure Visit where
  commit : Commit
  file : ChangedFile

/-- The visits of a scan, if nothing stops it. -/
def visits (commits : List Commit) : List Visit :=
  commits.flatMap fun commit => commit.files.map fun file => ⟨commit, file⟩

/-- The line of a change holds a mark. -/
def Marked (c : Change) : Prop := ∃ m ∈ marks, m.toList <:+: c.content.toList

theorem holdsMark_iff (c : Change) : holdsMark c.content = true ↔ Marked c := by
  simp only [holdsMark, List.any_eq_true, Search.occurs_iff, Marked]

instance : DecidablePred Marked := fun c => decidable_of_iff _ (holdsMark_iff c)

/-- The marked changes of the file. -/
def Visit.marked (v : Visit) : List Change := v.file.changes.filter (Marked ·)

/-- A filter for paths matches the path. -/
def Ignored (filters : List Filter) (path : String) : Prop :=
  ∃ p, Filter.path p ∈ filters ∧ p.found path = true

/-- The blob of the change is known and is text. -/
def Readable (blobs : List (String × Bytes)) (c : Change) : Prop :=
  ∃ source, blobs.lookup c.blob = some (Utf8.encode source)

/-- The scan goes on behind the visit. -/
structure Passes (filters : List Filter) (blobs : List (String × Bytes)) (v : Visit) : Prop where
  kept : ¬ Ignored filters v.file.path
  message : v.commit.message ≠ none
  readable : ∀ c ∈ v.marked, Readable blobs c

/-- **The visit stops the scan**: the changes whose blobs it reads, and what the scan comes to. -/
inductive Stops (filters : List Filter) (blobs : List (String × Bytes)) (v : Visit) :
    List Change → Except Failure (List Finding) → Prop where
  | ignored (h : Ignored filters v.file.path) : Stops filters blobs v [] (.ok [])
  | noMessage (hkept : ¬ Ignored filters v.file.path) (hmessage : v.commit.message = none) :
    Stops filters blobs v [] (.error (.violation (.noMessage v.commit.id)))
  | unknownBlob {before after : List Change} {c : Change} (hkept : ¬ Ignored filters v.file.path)
    (hmessage : v.commit.message ≠ none) (hmarked : v.marked = before ++ c :: after)
    (hbefore : ∀ d ∈ before, Readable blobs d) (hc : blobs.lookup c.blob = none) :
    Stops filters blobs v (before ++ [c]) (.error (.unknownBlob c.blob))
  | notText {before after : List Change} {c : Change} {bytes : Bytes}
    (hkept : ¬ Ignored filters v.file.path) (hmessage : v.commit.message ≠ none)
    (hmarked : v.marked = before ++ c :: after) (hbefore : ∀ d ∈ before, Readable blobs d)
    (hc : blobs.lookup c.blob = some bytes) (htext : ∀ source, bytes ≠ Utf8.encode source) :
    Stops filters blobs v (before ++ [c]) (.error (.violation (.notText c.blob v.file.path)))

/-- The finding is the one for a marked change of a visit. -/
structure Shows (rendering : Rendering) (blobs : List (String × Bytes)) (x : Visit × Change)
    (f : Finding) : Prop where
  checkId : f.checkId = checkId
  path : f.path = x.1.file.path
  commit : f.commitId = some x.1.commit.id
  message : ∃ text source, x.1.commit.message = some text ∧
    blobs.lookup x.2.blob = some (Utf8.encode source) ∧
    f.message = rendering.render
      (message x.1.commit.id text x.1.file.path source (Utf8.encode source) x.2)

/-! ### One visit -/

/-- What is done in a visit. -/
def visit (rendering : Rendering) (h : History) (ignored : String → Bool) (v : Visit) :
    Reading Outcome :=
  if ignored v.file.path then pure .ignored
  else match v.commit.message with
    | none => throw (.violation (.noMessage v.commit.id))
    | some text => .found <$> (v.file.changes.filter (holdsMark ·.content)).mapM
      (report rendering h v.commit.id text v.file.path)

/-- Visits one after the other, up to a failure or an ignored path. -/
def visitAll (rendering : Rendering) (h : History) (ignored : String → Bool) :
    List Visit → Reading Outcome
  | [] => pure (.found [])
  | v :: vs =>
    visit rendering h ignored v >>= Outcome.andThen (visitAll rendering h ignored vs)

section Loops

variable {rendering : Rendering} {h : History} {ignored : String → Bool}

theorem visitAll_append (us vs : List Visit) : visitAll rendering h ignored (us ++ vs) =
    visitAll rendering h ignored us >>= Outcome.andThen (visitAll rendering h ignored vs) := by
  induction us with
  | nil => rw [List.nil_append, visitAll, pure_bind, Outcome.found_nil_andThen]
  | cons u us ih =>
    rw [List.cons_append, visitAll, visitAll, ih, bind_assoc]
    refine bind_congr fun o => ?_
    rw [Outcome.andThen_bind_andThen]

theorem scanFiles_eq_visitAll (commit : Commit) (fs : List ChangedFile) :
    scanFiles rendering h ignored commit fs =
      visitAll rendering h ignored (fs.map fun file => ⟨commit, file⟩) := by
  induction fs with
  | nil => rfl
  | cons f fs ih =>
    rw [List.map_cons, visitAll, ← ih, visit]
    by_cases hi : ignored f.path = true
    · rw [scanFiles_of_ignored hi, if_pos hi, pure_bind]
      rfl
    · rw [scanFiles_of_not_ignored (Bool.eq_false_iff.mpr hi), if_neg hi]
      cases commit.message with
      | none => rfl
      | some text => simp only [map_eq_pure_bind, bind_assoc, pure_bind]

/-- **The scan is one loop over the visits.** -/
theorem scan_memory_eq (commits : List Commit) : scan rendering h ignored (commits.map pure) =
    visitAll rendering h ignored (visits commits) := by
  induction commits with
  | nil => rfl
  | cons commit commits ih =>
    have hcons : visits (commit :: commits) =
        (commit.files.map fun file => ⟨commit, file⟩) ++ visits commits := List.flatMap_cons
    rw [List.map_cons, scan_cons, pure_bind, scanFiles_eq_visitAll, ih, hcons, visitAll_append]

end Loops

section Memory

variable (rendering : Rendering) (commits : List Commit) {blobs : List (String × Bytes)}
  {filters : List Filter} {v : Visit} {c : Change}

/-- The finding is made after one read. -/
theorem start_report_readable {text : String} (hmessage : v.commit.message = some text)
    (hc : Readable blobs c) (s : Session) : ∃ f, Shows rendering blobs (v, c) f ∧
      (report rendering (.memory commits blobs) v.commit.id text v.file.path c).start s =
        (.ok f, s.noting [c.blob]) := by
  obtain ⟨source, hsource⟩ := hc
  refine ⟨⟨checkId, rendering.render (message v.commit.id text v.file.path source
    (Utf8.encode source) c), v.file.path, some v.commit.id⟩,
    ⟨rfl, rfl, rfl, text, source, hmessage, hsource, rfl⟩, ?_⟩
  rw [report, start_bind, History.start_blob_memory, hsource]
  simp only [Utf8.decode_encode]
  rfl

theorem start_report_unknown (id text path : String) (hc : blobs.lookup c.blob = none)
    (s : Session) : (report rendering (.memory commits blobs) id text path c).start s =
      (.error (.unknownBlob c.blob), s.noting [c.blob]) := by
  rw [report, start_bind, History.start_blob_memory, hc]

theorem start_report_notText {bytes : Bytes} (id text path : String)
    (hc : blobs.lookup c.blob = some bytes) (htext : ∀ source, bytes ≠ Utf8.encode source)
    (s : Session) : (report rendering (.memory commits blobs) id text path c).start s =
      (.error (.violation (.notText c.blob path)), s.noting [c.blob]) := by
  rw [report, start_bind, History.start_blob_memory, hc]
  cases hd : Utf8.decode bytes with
  | ok source => exact absurd (Utf8.decode_eq_ok_iff.mp hd) (htext source)
  | error e => simp only [hd]; rfl

/-- Readable changes are reported one after the other. -/
theorem start_mapM_readable {text : String} (hmessage : v.commit.message = some text) :
    ∀ {cs : List Change}, (∀ c ∈ cs, Readable blobs c) → ∀ s : Session,
      ∃ fs, List.Forall₂ (Shows rendering blobs) (cs.map (v, ·)) fs ∧
        (cs.mapM (report rendering (.memory commits blobs) v.commit.id text v.file.path)).start s =
          (.ok fs, s.noting (cs.map (·.blob)))
  | [], _, s => ⟨[], .nil, rfl⟩
  | c :: cs, hcs, s => by
    obtain ⟨f, hf, hstart⟩ :=
      start_report_readable rendering commits hmessage (hcs c List.mem_cons_self) s
    obtain ⟨fs, hfs, hrest⟩ := start_mapM_readable hmessage
      (fun d hd => hcs d (List.mem_cons_of_mem c hd)) (s.noting [c.blob])
    refine ⟨f :: fs, .cons hf hfs, ?_⟩
    rw [List.mapM_cons, start_bind, hstart]
    simp only
    rw [start_bind, hrest, Session.noting_noting]
    rfl

/-- The first change that cannot be reported ends the visit. -/
theorem start_mapM_error {text : String} {before after : List Change} {e : Failure}
    (hmessage : v.commit.message = some text) (hbefore : ∀ d ∈ before, Readable blobs d)
    (he : ∀ s, (report rendering (.memory commits blobs) v.commit.id text v.file.path c).start s =
      (.error e, s.noting [c.blob])) (s : Session) :
    ((before ++ c :: after).mapM
      (report rendering (.memory commits blobs) v.commit.id text v.file.path)).start s =
        (.error e, s.noting ((before ++ [c]).map (·.blob))) := by
  obtain ⟨fs, -, hstart⟩ := start_mapM_readable rendering commits hmessage hbefore s
  rw [List.mapM_append, start_bind, hstart]
  simp only
  rw [start_bind, List.mapM_cons, start_bind, he, Session.noting_noting, List.map_append]
  rfl

theorem ignored_iff (path : String) :
    filters.any (·.matchesPath path) = true ↔ Ignored filters path := by
  rw [List.any_eq_true, Ignored]
  constructor
  · rintro ⟨g, hg, hmatch⟩
    cases g with
    | path p => exact ⟨p, hg, hmatch⟩
    | namespaced p => cases hmatch
  · rintro ⟨p, hp, hfound⟩
    exact ⟨.path p, hp, hfound⟩

theorem filter_holdsMark (v : Visit) :
    v.file.changes.filter (holdsMark ·.content) = v.marked := by
  refine List.filter_congr fun c _ => ?_
  rw [Bool.eq_iff_iff, holdsMark_iff, decide_eq_true_eq]

theorem visit_of_kept {h : History} {text : String} (hkept : ¬ Ignored filters v.file.path)
    (hmessage : v.commit.message = some text) :
    visit rendering h (fun path => filters.any (·.matchesPath path)) v =
      .found <$> v.marked.mapM (report rendering h v.commit.id text v.file.path) := by
  rw [visit, if_neg fun hi => hkept ((ignored_iff _).mp hi), hmessage, filter_holdsMark]

theorem start_visit_passes (hv : Passes filters blobs v) (s : Session) :
    ∃ fs, List.Forall₂ (Shows rendering blobs) (v.marked.map (v, ·)) fs ∧
      (visit rendering (.memory commits blobs) (fun path => filters.any (·.matchesPath path))
        v).start s = (.ok (.found fs), s.noting (v.marked.map (·.blob))) := by
  obtain ⟨text, hmessage⟩ := Option.ne_none_iff_exists'.mp hv.message
  obtain ⟨fs, hfs, hstart⟩ := start_mapM_readable rendering commits hmessage hv.readable s
  refine ⟨fs, hfs, ?_⟩
  rw [visit_of_kept rendering hv.kept hmessage, start_map, hstart]
  rfl

theorem start_visit_stops {seen : List Change} {o : Except Failure (List Finding)}
    (hv : Stops filters blobs v seen o) (s : Session) :
    (visit rendering (.memory commits blobs) (fun path => filters.any (·.matchesPath path))
      v).start s = (o.map fun _ => .ignored, s.noting (seen.map (·.blob))) := by
  cases hv with
  | ignored h =>
    rw [visit, if_pos ((ignored_iff _).mpr h)]
    rfl
  | noMessage hkept hmessage =>
    rw [visit, if_neg fun hi => hkept ((ignored_iff _).mp hi), hmessage]
    rfl
  | unknownBlob hkept hmessage hmarked hbefore hc =>
    obtain ⟨text, hmessage⟩ := Option.ne_none_iff_exists'.mp hmessage
    rw [visit_of_kept rendering hkept hmessage, start_map, hmarked,
      start_mapM_error rendering commits hmessage hbefore fun s =>
        start_report_unknown rendering commits _ _ _ hc s]
    rfl
  | notText hkept hmessage hmarked hbefore hc htext =>
    obtain ⟨text, hmessage⟩ := Option.ne_none_iff_exists'.mp hmessage
    rw [visit_of_kept rendering hkept hmessage, start_map, hmarked,
      start_mapM_error rendering commits hmessage hbefore fun s =>
        start_report_notText rendering commits _ _ _ hc htext s]
    rfl

/-! ### The whole scan -/

/-- **Without a stop every marked change is reported.** -/
theorem start_visitAll_passes : ∀ {vs : List Visit}, (∀ v ∈ vs, Passes filters blobs v) →
    ∀ s : Session, ∃ fs,
      List.Forall₂ (Shows rendering blobs) (vs.flatMap fun v => v.marked.map (v, ·)) fs ∧
      (visitAll rendering (.memory commits blobs) (fun path => filters.any (·.matchesPath path))
        vs).start s = (.ok (.found fs), s.noting ((vs.flatMap Visit.marked).map (·.blob)))
  | [], _, s => ⟨[], .nil, rfl⟩
  | v :: vs, hvs, s => by
    obtain ⟨here, hhere, hstart⟩ :=
      start_visit_passes rendering commits (hvs v List.mem_cons_self) s
    obtain ⟨there, hthere, hrest⟩ := start_visitAll_passes
      (fun u hu => hvs u (List.mem_cons_of_mem v hu)) (s.noting (v.marked.map (·.blob)))
    refine ⟨here ++ there, ?_, ?_⟩
    · rw [List.flatMap_cons]
      exact List.rel_append hhere hthere
    · rw [visitAll, start_bind, hstart]
      simp only [Outcome.andThen]
      rw [start_map, hrest, Session.noting_noting, List.flatMap_cons, List.map_append]
      rfl

/-- **The first stop decides.** What was found in front of it is dropped. -/
theorem start_visitAll_stop {before after : List Visit} {seen : List Change}
    {o : Except Failure (List Finding)} (hbefore : ∀ u ∈ before, Passes filters blobs u)
    (hv : Stops filters blobs v seen o) (s : Session) :
    (Outcome.findings <$> visitAll rendering (.memory commits blobs)
        (fun path => filters.any (·.matchesPath path)) (before ++ v :: after)).start s =
      (o, s.noting ((before.flatMap Visit.marked ++ seen).map (·.blob))) := by
  obtain ⟨fs, -, hstart⟩ := start_visitAll_passes rendering commits hbefore s
  have hstop := start_visit_stops rendering commits hv
    (s.noting ((before.flatMap Visit.marked).map (·.blob)))
  -- Only an ignored path stops the scan without a failure.
  have hempty : ∀ fs, o = .ok fs → fs = [] := by
    rintro fs rfl
    cases hv
    rfl
  rw [start_map, visitAll_append, start_bind, hstart]
  simp only [Outcome.andThen]
  rw [start_map, visitAll, start_bind, hstop, Session.noting_noting, ← List.map_append]
  cases o with
  | error e => rfl
  | ok fs =>
    rw [hempty fs rfl]
    rfl

theorem forall_or_exists_first {α : Type} (p : α → Prop) (l : List α) : (∀ a ∈ l, p a) ∨
    ∃ before a after, l = before ++ a :: after ∧ (∀ b ∈ before, p b) ∧ ¬ p a := by
  classical
  cases h : l.find? fun a => ¬ p a with
  | none =>
    left
    simpa using h
  | some a =>
    right
    obtain ⟨ha, before, after, hl, hbefore⟩ := List.find?_eq_some_iff_append.mp h
    exact ⟨before, a, after, hl, by simpa using hbefore, by simpa using ha⟩

/-- **A visit passes or stops the scan.** -/
theorem passes_or_stops (filters : List Filter) (blobs : List (String × Bytes)) (v : Visit) :
    Passes filters blobs v ∨ ∃ seen o, Stops filters blobs v seen o := by
  by_cases hkept : Ignored filters v.file.path
  · exact Or.inr ⟨_, _, .ignored hkept⟩
  by_cases hmessage : v.commit.message = none
  · exact Or.inr ⟨_, _, .noMessage hkept hmessage⟩
  rcases forall_or_exists_first (Readable blobs) v.marked with
    hreadable | ⟨before, c, after, hmarked, hbefore, hc⟩
  · exact Or.inl ⟨hkept, hmessage, hreadable⟩
  · right
    cases hlookup : blobs.lookup c.blob with
    | none => exact ⟨_, _, .unknownBlob hkept hmessage hmarked hbefore hlookup⟩
    | some bytes =>
      refine ⟨_, _, .notText hkept hmessage hmarked hbefore hlookup ?_⟩
      rintro source rfl
      exact hc ⟨source, hlookup⟩

/-- **The check of a history in memory is decided by its first stop.** Either a visit that stops the
scan comes first behind visits that pass, and then its outcome is that of the check; or all visits
pass, and then there is one finding for each marked change, in order. In both cases the blobs of the
marked changes up to there are read, once for each change. -/
theorem execute_memory (rendering : Rendering) (commits : List Commit)
    (blobs : List (String × Bytes)) (filters : List Filter) (s : Session) :
    (∃ before v after seen o, visits commits = before ++ v :: after ∧
      (∀ u ∈ before, Passes filters blobs u) ∧ Stops filters blobs v seen o ∧
      ((check rendering).execute (.history (.memory commits blobs)) filters).start s =
        (o, s.noting ((before.flatMap Visit.marked ++ seen).map (·.blob)))) ∨
    ((∀ v ∈ visits commits, Passes filters blobs v) ∧ ∃ fs,
      List.Forall₂ (Shows rendering blobs)
        ((visits commits).flatMap fun v => v.marked.map (v, ·)) fs ∧
      ((check rendering).execute (.history (.memory commits blobs)) filters).start s =
        (.ok fs, s.noting (((visits commits).flatMap Visit.marked).map (·.blob)))) := by
  have hexecute : (check rendering).execute (.history (.memory commits blobs)) filters =
      Outcome.findings <$> visitAll rendering (.memory commits blobs)
        (fun path => filters.any (·.matchesPath path)) (visits commits) := by
    have hcommits : (History.memory commits blobs).commits = pure (commits.map pure) := rfl
    rw [← scan_memory_eq]
    change findings rendering (.memory commits blobs) filters = _
    rw [findings_eq, hcommits, pure_bind]
  rw [hexecute]
  rcases forall_or_exists_first (Passes filters blobs) (visits commits) with
    hall | ⟨before, v, after, hvisits, hbefore, hv⟩
  · right
    obtain ⟨fs, hfs, hstart⟩ := start_visitAll_passes rendering commits hall s
    refine ⟨hall, fs, hfs, ?_⟩
    rw [start_map, hstart]
    rfl
  · left
    obtain ⟨seen, o, hstops⟩ := (passes_or_stops filters blobs v).resolve_left hv
    refine ⟨before, v, after, seen, o, hvisits, hbefore, hstops, ?_⟩
    rw [hvisits]
    exact start_visitAll_stop rendering commits hbefore hstops s

end Memory

end CommittedTodos

end HouseRules
