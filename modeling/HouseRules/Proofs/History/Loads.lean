import HouseRules.Proofs.History.Uncached

/-! # The blobs that a diff loads

Reading the files of a commit asks for one blob after another (`loads`). Without a cache each of
them is a call behind that for the diff (`start_uncached_changedFiles`). A failed request ends the
reading, so all requests but possibly the last are answered, and the lines of the files that are
read come from blobs that were asked for (`loads_orderly`).

With a cache that holds as many blobs as the diff loads, git is asked for each of these at most once
(`exists_issued_requests`), and later requests for them are not due (`not_due_of_recent`). -/

namespace HouseRules

open Reading
open Diff hiding changedFiles

namespace Repository

variable {α β γ : Type} {r : Repository}

/-- The blobs that reading the files of a commit asks for, up to a failure. -/
def loads (r : Repository) (id : String) : List String :=
  match r.git (diffArgs id) with
  | .output output => (outcomeOf Failure.path r.reply output).2
  | _ => []

/-- The session with requests for blobs in its journal, given in the order in which they are
made. -/
def requesting (r : Repository) (ids : List String) (s : Session) : Session :=
  { s with calls := (ids.map fun id => r.entry (blobArgs id)).reverse ++ s.calls }

theorem requesting_append (ids ids' : List String) (s : Session) :
    r.requesting (ids ++ ids') s = r.requesting ids' (r.requesting ids s) := by
  simp [requesting]

/-! ### Requests as calls -/

/-- Without a cache the computation `x` does what `y` does, and its requests are calls. -/
def Asks (r : Repository) (x : Reading α) (y : Asking Failure α) : Prop :=
  y.Framed ∧ ∀ s, s.caches r.number = [] →
    x.start s = (y.outcome.1, r.requesting y.outcome.2 s)

theorem asks_pure (a : α) : Asks r (pure a) (pure a) := ⟨Asking.framed_pure a, fun _ _ => rfl⟩

theorem asks_throw (e : Failure) : Asks r (throw e : Reading α) (throw e) :=
  ⟨Asking.framed_throw e, fun _ _ => rfl⟩

theorem Asks.bind {x : Reading α} {y : Asking Failure α} {f : α → Reading β}
    {g : α → Asking Failure β} (hx : Asks r x y) (hf : ∀ a, Asks r (f a) (g a)) :
    Asks r (x >>= f) (y >>= g) := by
  refine ⟨hx.1.bind fun a => (hf a).1, fun s hs => ?_⟩
  rw [start_bind, hx.2 s hs, Asking.outcome_bind y fun a => (hf a).1]
  rcases y.outcome with ⟨e | a, ids⟩
  · rfl
  · simp only [andThen, requesting_append]
    exact (hf a).2 (r.requesting ids s) hs

theorem asks_blob (r : Repository) (id : String) :
    Asks r (r.uncached.blob id) (ask r.reply id) := by
  refine ⟨framed_ask r.reply id, fun s hs => ?_⟩
  rw [start_uncached_blob r id hs]
  unfold ask
  cases r.reply id with
  | ok bytes => rfl
  | error e => rfl

/-- **Without a cache the files of a commit are read by a call for the diff and calls for the blobs
that it loads.** -/
theorem start_uncached_changedFiles (r : Repository) (id : String) {s : Session}
    (hs : s.caches r.number = []) :
    ((r.uncached.changedFiles id).start s).2 =
      r.requesting (r.loads id) (r.noting (diffArgs id) s) ∧
    ∀ fs, ((r.uncached.changedFiles id).start s).1 = .ok fs →
      ∃ output, r.git (diffArgs id) = .output output ∧
        (outcomeOf .path r.reply output).1 = .ok fs := by
  unfold changedFiles
  rw [start_bind, start_call]
  have hgit : r.uncached.git = r.git := rfl
  unfold loads
  cases hg : r.git (diffArgs id) with
  | failed code stderr =>
    rw [hgit, hg]
    exact ⟨rfl, by rintro fs ⟨⟩⟩
  | missing =>
    rw [hgit, hg]
    exact ⟨rfl, by rintro fs ⟨⟩⟩
  | output output =>
    rw [hgit, hg]
    have hasks : Asks r
        (Diff.changedFiles Reading.exit r.uncached.blob output)
        (Diff.changedFiles (Asking.exit .path) (ask r.reply) output) :=
      changedFiles_related (Asks r) asks_pure Asks.bind (fun e => asks_throw (.path e))
        (asks_blob r) output
    have hstart := hasks.2 (r.noting (diffArgs id) s) hs
    refine ⟨congrArg Prod.snd hstart, fun fs hfs => ⟨output, rfl, ?_⟩⟩
    exact (congrArg Prod.fst hstart).symm.trans hfs

/-! ### Answered requests -/

/-- The outcome of reading the sections of a diff, with its requests: all of them are answered if
there is a result, all but possibly the last one anyway, and the lines of the files that are read
come from blobs that were asked for. -/
structure Orderly (r : Repository) (p : Except Failure (List (Option ChangedFile)) × List String) :
    Prop where
  /-- With a result all requests are answered. -/
  answered : ∀ fs, p.1 = .ok fs → ∀ id ∈ p.2, r.prints id = true
  /-- At most the last request fails. -/
  answered_dropLast : ∀ id ∈ p.2.dropLast, r.prints id = true
  /-- The lines come from blobs that were asked for. -/
  named : ∀ fs, p.1 = .ok fs → ∀ f, some f ∈ fs → ∀ c ∈ f.changes, c.blob ∈ p.2

theorem prints_of_reply {id : String} {bytes : Bytes} (h : r.reply id = .ok bytes) :
    r.prints id = true := by
  by_contra hp
  obtain ⟨e, he⟩ := exists_reply_of_not_prints hp
  rw [he] at h
  cases h

theorem blob_of_mem_changesForLines {id : String} {bytes : Bytes} {numbers : List Int} {c : Change}
    (h : c ∈ changesForLines id bytes numbers) : c.blob = id := by
  simp only [changesForLines, List.mem_filterMap, Option.map_eq_some_iff] at h
  obtain ⟨number, -, q, -, rfl⟩ := h
  rfl

/-- A section asks for at most one blob, and its lines come from there. -/
theorem outcome_fileOf (r : Repository) (reading : Except PathError (Option Diff.Entry)) :
    ∃ o ids, (fileOf (Asking.exit .path).fail (ask r.reply) reading).outcome = (o, ids) ∧
      ids.length ≤ 1 ∧ ∀ f?, o = .ok f? → (∀ id ∈ ids, r.prints id = true) ∧
        ∀ f, f? = some f → ∀ c ∈ f.changes, c.blob ∈ ids := by
  rcases reading with e | _ | e
  · exact ⟨_, [], rfl, by simp, by rintro f? ⟨⟩⟩
  · refine ⟨_, [], rfl, by simp, ?_⟩
    rintro f? ⟨⟩
    exact ⟨by simp, by rintro f ⟨⟩⟩
  · have hfile : fileOf (Asking.exit .path).fail (ask r.reply) (.ok (some e)) =
        some <$> e.resolve (ask r.reply) := rfl
    rw [hfile, map_eq_pure_bind, Asking.outcome_bind _ fun f => Asking.framed_pure (some f)]
    unfold Diff.Entry.resolve
    cases hw : e.wanted? with
    | none =>
      refine ⟨_, [], rfl, by simp, ?_⟩
      rintro f? ⟨⟩
      refine ⟨by simp, ?_⟩
      rintro f ⟨⟩ c ⟨⟩
    | some id =>
      rw [Asking.outcome_bind _ fun bytes => Asking.framed_pure _]
      cases hreply : r.reply id with
      | error failure =>
        have hask : (ask r.reply id).outcome = (.error failure, [id]) := by
          unfold ask
          rw [hreply]
          rfl
        rw [hask]
        exact ⟨_, [id], rfl, by simp, by rintro f? ⟨⟩⟩
      | ok bytes =>
        rw [outcome_ask hreply]
        refine ⟨_, [id], rfl, by simp, ?_⟩
        rintro f? ⟨⟩
        refine ⟨by simpa using prints_of_reply hreply, ?_⟩
        rintro f ⟨⟩ c hc
        simp [blob_of_mem_changesForLines hc]

/-- One more section, whose request is answered. -/
theorem Orderly.cons {o : Except Failure (List (Option ChangedFile))} {ids ids' : List String}
    {f? : Option ChangedFile} (h : Orderly r (o, ids')) (hprints : ∀ id ∈ ids, r.prints id = true)
    (hnamed : ∀ f, f? = some f → ∀ c ∈ f.changes, c.blob ∈ ids) :
    Orderly r ((f? :: ·) <$> o, ids ++ ids') := by
  have hresult : ∀ fs, (f? :: ·) <$> o = .ok fs → ∃ fs', o = .ok fs' ∧ fs = f? :: fs' := by
    intro fs hfs
    cases o with
    | error e => cases hfs
    | ok fs' => exact ⟨fs', rfl, (Except.ok.inj hfs).symm⟩
  refine ⟨?_, ?_, ?_⟩
  · intro fs hfs id hid
    obtain ⟨fs', rfl, -⟩ := hresult fs hfs
    rcases List.mem_append.mp hid with hid | hid
    · exact hprints id hid
    · exact h.answered fs' rfl id hid
  · intro id hid
    by_cases hnil : ids' = []
    · rw [hnil, List.append_nil] at hid
      exact hprints id (List.dropLast_subset ids hid)
    · rw [List.dropLast_append_of_ne_nil hnil, List.mem_append] at hid
      rcases hid with hid | hid
      · exact hprints id hid
      · exact h.answered_dropLast id hid
  · intro fs hfs f hf c hc
    obtain ⟨fs', rfl, rfl⟩ := hresult fs hfs
    rcases List.mem_cons.mp hf with rfl | hf
    · exact List.mem_append_left _ (hnamed f rfl c hc)
    · exact List.mem_append_right _ (h.named fs' rfl f hf c hc)

/-- **The sections of a diff are read in order.** -/
theorem orderly_mapM_fileOf (r : Repository) :
    ∀ readings : List (Except PathError (Option Diff.Entry)),
    Orderly r (readings.mapM (fileOf (Asking.exit .path).fail (ask r.reply))).outcome
  | [] => by
    refine ⟨?_, ?_, ?_⟩
    · rintro fs - id ⟨⟩
    · rintro id ⟨⟩
    · rintro fs ⟨⟩ f ⟨⟩
  | reading :: readings => by
    have ih := orderly_mapM_fileOf r readings
    obtain ⟨o, ids, ho, hlength, hok⟩ := outcome_fileOf r reading
    have hframed := Asking.Framed.mapM (framed_fileOf .path r.reply) readings
    rw [List.mapM_cons, Asking.outcome_bind _ fun f? =>
      hframed.bind fun fs => Asking.framed_pure (f? :: fs), ho]
    cases o with
    | error e =>
      have hnil : ids.dropLast = [] := by
        rw [← List.length_eq_zero_iff, List.length_dropLast]
        omega
      refine ⟨?_, ?_, ?_⟩
      · rintro fs ⟨⟩
      · intro id hid
        simp [andThen, hnil] at hid
      · rintro fs ⟨⟩
    | ok f? =>
      obtain ⟨hprints, hnamed⟩ := hok f? rfl
      simp only [andThen]
      rw [Asking.outcome_bind _ fun fs => Asking.framed_pure (f? :: fs)]
      generalize (readings.mapM (fileOf (Asking.exit .path).fail
        (ask r.reply))).outcome = p at ih ⊢
      have hcons := ih.cons hprints hnamed
      rcases p with ⟨e | fs, ids'⟩
      · exact hcons
      · have hids : (andThen (Except.ok fs, ids') fun fs =>
            Asking.outcome (ε := Failure) (pure (f? :: fs))) = (.ok (f? :: fs), ids') :=
          congrArg (Prod.mk _) (List.append_nil ids')
        rw [hids]
        exact hcons

theorem orderly_outcomeOf (r : Repository) (output : Bytes) :
    ∃ fs, Orderly r (fs, (outcomeOf .path r.reply output).2) ∧
      (outcomeOf .path r.reply output).1 = (·.filterMap id) <$> fs := by
  have horderly := orderly_mapM_fileOf r (readings output)
  unfold outcomeOf
  rw [changedFiles_eq, map_eq_pure_bind, Asking.outcome_bind _ fun fs => Asking.framed_pure _]
  generalize ((readings output).mapM (fileOf (Asking.exit .path).fail
    (ask r.reply))).outcome = p at horderly ⊢
  rcases p with ⟨e | fs, ids⟩
  · exact ⟨.error e, horderly, rfl⟩
  · refine ⟨.ok fs, ?_, rfl⟩
    have hids : ids ++ [] = ids := List.append_nil ids
    change Orderly r (.ok fs, ids ++ [])
    rwa [hids]

/-- **The blobs of a commit are loaded in order**: all of them but possibly the last are printed. If
the files are read, then all of them are, and the lines of the files come from there. -/
theorem loads_orderly (r : Repository) (id : String) {s : Session}
    (hs : s.caches r.number = []) :
    (∀ x ∈ (r.loads id).dropLast, r.prints x = true) ∧
    ∀ fs, ((r.uncached.changedFiles id).start s).1 = .ok fs →
      (∀ x ∈ r.loads id, r.prints x = true) ∧
      ∀ f ∈ fs, ∀ c ∈ f.changes, c.blob ∈ r.loads id := by
  obtain ⟨-, hok⟩ := start_uncached_changedFiles r id hs
  constructor
  · unfold loads
    cases hg : r.git (diffArgs id) with
    | failed code stderr => simp
    | missing => simp
    | output output =>
      obtain ⟨_, horderly, -⟩ := orderly_outcomeOf r output
      exact horderly.answered_dropLast
  · intro fs hfs
    obtain ⟨output, hg, hout⟩ := hok fs hfs
    obtain ⟨fs?, horderly, heq⟩ := orderly_outcomeOf r output
    have hloads : r.loads id = (outcomeOf .path r.reply output).2 := by
      unfold loads
      rw [hg]
    rw [hloads]
    cases fs? with
    | error e =>
      rw [hout] at heq
      cases heq
    | ok fs' =>
      rw [hout] at heq
      have hfs' : fs = fs'.filterMap (fun f => f) := Except.ok.inj heq
      refine ⟨horderly.answered fs' rfl, fun f hf => ?_⟩
      refine horderly.named fs' rfl f ?_
      simpa [hfs'] using hf

/-! ### Requests with the cache -/

/-- A blob among the latest reads is not due, if these fit into the cache. -/
theorem not_due_of_recent {calls : List GitCall} {part earlier : List String} {x : String}
    (hreads : r.reads calls = part ++ earlier) (hx : x ∈ part)
    (hcard : (part.toFinset.card : Int) ≤ r.cacheSize) : ¬ r.Due calls x := by
  obtain ⟨front, back, rfl, hfront⟩ := List.eq_append_cons_of_mem hx
  have hwhile : (r.reads calls).takeWhile (· != x) = front := by
    rw [hreads, List.append_assoc, List.takeWhile_append_of_pos]
    · simp
    · intro y hy
      have hne : y ≠ x := fun h => hfront (h ▸ hy)
      simpa using hne
  have hlt : front.toFinset.card < (front ++ x :: back).toFinset.card := by
    refine Finset.card_lt_card ⟨?_, fun hsub => ?_⟩
    · intro y hy
      simp only [List.mem_toFinset, List.mem_append] at hy ⊢
      exact Or.inl hy
    · have hmem : x ∈ front.toFinset := hsub (by simp)
      exact hfront (List.mem_toFinset.mp hmem)
  rintro (hnot | hle)
  · exact hnot (by simp [hreads])
  · rw [hwhile] at hle
    omega

/-- The journal of requests for blobs, the latest first. -/
theorem reads_requests (ids : List String) (earlier : List GitCall) :
    r.reads ((ids.map fun id => r.entry (blobArgs id)).reverse ++ earlier) =
      (ids.filter r.prints).reverse ++ r.reads earlier := by
  have hasked : (ids.map fun id => r.entry (blobArgs id)).filterMap GitCall.asked? = ids := by
    rw [List.filterMap_map]
    exact List.filterMap_some
  unfold reads
  rw [List.filterMap_append, List.filter_append, List.filterMap_reverse, hasked,
    List.filter_reverse]

/-- **Blobs that fit into the cache are asked of git at most once.** -/
theorem exists_issued_requests (earlier : List GitCall) : ∀ {ids : List String},
    (∀ id ∈ ids.dropLast, r.prints id = true) →
    (((ids.filter r.prints).toFinset.card : Int) ≤ r.cacheSize) →
    ∃ blobs : List String, blobs.Nodup ∧ blobs ⊆ ids ∧
      r.issued ((ids.map fun id => r.entry (blobArgs id)).reverse ++ earlier) =
        (blobs.map fun id => r.entry (blobArgs id)).reverse ++ r.issued earlier := by
  intro ids
  induction ids using List.reverseRecOn with
  | nil => exact fun _ _ => ⟨[], List.nodup_nil, List.Subset.refl _, rfl⟩
  | append_singleton ids x ih =>
    intro hprints hcard
    rw [List.dropLast_concat] at hprints
    have hcard' : ((ids.filter r.prints).toFinset.card : Int) ≤ r.cacheSize := by
      refine le_trans (Int.ofNat_le.mpr (Finset.card_le_card ?_)) hcard
      intro y hy
      simp only [List.mem_toFinset, List.mem_filter, List.mem_append] at hy ⊢
      exact ⟨Or.inl hy.1, hy.2⟩
    obtain ⟨blobs, hnodup, hsub, hissued⟩ :=
      ih (fun id hid => hprints id (List.dropLast_subset ids hid)) hcard'
    have hjournal : ((ids ++ [x]).map fun id => r.entry (blobArgs id)).reverse ++ earlier =
        r.entry (blobArgs x) ::
          ((ids.map fun id => r.entry (blobArgs id)).reverse ++ earlier) := by simp
    rw [hjournal]
    by_cases hd : r.Due ((ids.map fun id => r.entry (blobArgs id)).reverse ++ earlier) x
    · -- a blob that is due was not asked for before: it would be among the latest reads
      have hx : x ∉ blobs := by
        intro hx
        have hpart : x ∈ (ids.filter r.prints).reverse := by
          simpa using ⟨hsub hx, hprints x (hsub hx)⟩
        refine not_due_of_recent (reads_requests ids earlier) hpart ?_ hd
        rwa [List.toFinset_reverse]
      refine ⟨blobs ++ [x], ?_, ?_, ?_⟩
      · simpa [List.nodup_append] using ⟨hnodup, fun y hy hyx => hx (hyx ▸ hy)⟩
      · intro y hy
        rcases List.mem_append.mp hy with hy | hy
        · exact List.mem_append_left _ (hsub hy)
        · exact List.mem_append_right _ hy
      · rw [issued_cons_of_due (asked?_entry_blobArgs x) hd, hissued]
        simp
    · refine ⟨blobs, hnodup, fun y hy => List.mem_append_left _ (hsub hy), ?_⟩
      rw [issued_cons_of_not_due (asked?_entry_blobArgs x) hd, hissued]

end Repository
end HouseRules
