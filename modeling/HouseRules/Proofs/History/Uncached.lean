import HouseRules.Proofs.History.Recency
import HouseRules.Proofs.History.Repository

/-! # A repository without a cache

A repository that keeps no blobs asks git for every blob that is wanted, so its journal shows all
requests. From this journal it can be told what a repository with a cache does: which blobs it keeps
(`reads`, `BlobCache.kept`), and which calls it makes (`issued`). `seen` puts both together, and
`Mirrors` says that a computation with the cache is the one without it, looked at through `seen`.
All reading of a history is of this kind (`mirrors_commit`). -/

namespace HouseRules

open Reading BlobCache

/-! ### Two ways to read a diff -/

/-- Computations that are related step by step read a diff in related ways. -/
theorem Diff.changedFiles_related {m n : Type → Type} [Monad m] [LawfulMonad m] [Monad n]
    [LawfulMonad n] (R : {α : Type} → m α → n α → Prop)
    (hpure : ∀ {α : Type} (a : α), R (pure a) (pure a))
    (hbind : ∀ {α β : Type} {x : m α} {y : n α} {f : α → m β} {g : α → n β},
      R x y → (∀ a, R (f a) (g a)) → R (x >>= f) (y >>= g))
    {exit : Exit m} {exit' : Exit n} {load : String → m Bytes} {load' : String → n Bytes}
    (hfail : ∀ {α : Type} (e : PathError), R (exit.fail e : m α) (exit'.fail e))
    (hload : ∀ id, R (load id) (load' id)) (output : Bytes) :
    R (changedFiles exit load output) (changedFiles exit' load' output) := by
  have hmap : ∀ {α β : Type} {x : m α} {y : n α} (f : α → β), R x y → R (f <$> x) (f <$> y) := by
    intro α β x y f h
    rw [map_eq_pure_bind, map_eq_pure_bind]
    exact hbind h fun a => hpure (f a)
  have hresolve : ∀ e? : Option Entry, R (resolve? load e?) (resolve? load' e?) := by
    intro e?
    cases e? with
    | none => exact hpure none
    | some e =>
      refine hmap some ?_
      unfold Entry.resolve
      cases e.wanted? with
      | none => exact hpure _
      | some id => exact hbind (hload id) fun bytes => hpure _
  have hfile : ∀ reading : Except PathError (Option Entry),
      R (fileOf exit.fail load reading) (fileOf exit'.fail load' reading) := by
    intro reading
    cases reading with
    | ok e? => exact hbind (hpure e?) hresolve
    | error e => exact hbind (hfail e) hresolve
  have hfiles : ∀ l : List (Except PathError (Option Entry)),
      R (l.mapM (fileOf exit.fail load)) (l.mapM (fileOf exit'.fail load')) := by
    intro l
    induction l with
    | nil => exact hpure []
    | cons reading l ih =>
      rw [List.mapM_cons, List.mapM_cons]
      exact hbind (hfile reading) fun f => hbind ih fun fs => hpure (f :: fs)
  rw [changedFiles_eq, changedFiles_eq]
  exact hmap _ (hfiles _)

/-! ### Requests -/

/-- The blob that a call asks for. -/
def GitCall.asked? (c : GitCall) : Option String :=
  match c.args with
  | ["cat-file", "blob", id] => some id
  | _ => none

namespace Repository

variable {α β : Type}

/-- The repository without a cache. -/
def uncached (r : Repository) : Repository := { r with cacheSize := 0 }

/-- The entry of a call in the journal. -/
def entry (r : Repository) (args : List String) : GitCall := ⟨args, r.path.toString⟩

/-- Git prints the blob. -/
def prints (r : Repository) (id : String) : Bool :=
  match r.git (blobArgs id) with
  | .output _ => true
  | _ => false

/-- What git prints for the blob, nothing if it fails. -/
def contentOf (r : Repository) (id : String) : Bytes :=
  match r.git (blobArgs id) with
  | .output bytes => bytes
  | _ => []

/-- The blobs that were read successfully, the latest first. -/
def reads (r : Repository) (calls : List GitCall) : List String :=
  (calls.filterMap GitCall.asked?).filter r.prints

/-- A blob has to be asked of git: it was not read before, or as many other blobs as are kept were
read since. -/
def Due (r : Repository) (earlier : List GitCall) (id : String) : Prop :=
  id ∉ r.reads earlier ∨
    r.cacheSize ≤ (((r.reads earlier).takeWhile (· != id)).toFinset.card : Int)

instance (r : Repository) (earlier : List GitCall) (id : String) : Decidable (r.Due earlier id) :=
  inferInstanceAs (Decidable (_ ∨ _))

/-- The calls that are made for requests: all that are not for blobs, and those for blobs that are
due. -/
def issued (r : Repository) : List GitCall → List GitCall
  | [] => []
  | c :: earlier =>
    match c.asked? with
    | none => c :: issued r earlier
    | some id => if r.Due earlier id then c :: issued r earlier else issued r earlier

/-- What a session without a cache looks like with it. -/
def seen (r : Repository) (s : Session) : Session where
  caches := fun n =>
    if n = r.number then kept r.contentOf r.cacheSize.toNat (r.reads s.calls) else s.caches n
  next := s.next
  calls := r.issued s.calls
  reads := s.reads

variable {r : Repository}

@[simp] theorem asked?_entry_blobArgs (id : String) :
    (r.entry (blobArgs id)).asked? = some id := rfl

theorem issued_cons_of_none {c : GitCall} (h : c.asked? = none) (calls : List GitCall) :
    r.issued (c :: calls) = c :: r.issued calls := by
  rw [issued, h]

theorem issued_cons_of_due {c : GitCall} {id : String} (h : c.asked? = some id)
    {calls : List GitCall} (hd : r.Due calls id) :
    r.issued (c :: calls) = c :: r.issued calls := by
  rw [issued, h]
  exact if_pos hd

theorem issued_cons_of_not_due {c : GitCall} {id : String} (h : c.asked? = some id)
    {calls : List GitCall} (hd : ¬ r.Due calls id) : r.issued (c :: calls) = r.issued calls := by
  rw [issued, h]
  exact if_neg hd

theorem reads_cons_of_none {c : GitCall} (h : c.asked? = none) (calls : List GitCall) :
    r.reads (c :: calls) = r.reads calls := by
  rw [reads, List.filterMap_cons_none h, reads]

theorem reads_cons_of_prints {c : GitCall} {id : String} (h : c.asked? = some id)
    (hp : r.prints id = true) (calls : List GitCall) :
    r.reads (c :: calls) = id :: r.reads calls := by
  rw [reads, List.filterMap_cons_some h, List.filter_cons_of_pos hp, reads]

theorem reads_cons_of_not_prints {c : GitCall} {id : String} (h : c.asked? = some id)
    (hp : ¬ r.prints id = true) (calls : List GitCall) :
    r.reads (c :: calls) = r.reads calls := by
  rw [reads, List.filterMap_cons_some h, List.filter_cons_of_neg hp, reads]

theorem prints_of_mem_reads {calls : List GitCall} {id : String} (h : id ∈ r.reads calls) :
    r.prints id = true := (List.mem_filter.mp h).2

theorem git_of_prints {id : String} (h : r.prints id = true) :
    r.git (blobArgs id) = .output (r.contentOf id) := by
  unfold prints at h
  unfold contentOf
  cases hg : r.git (blobArgs id) with
  | output bytes => rfl
  | failed code stderr => simp [hg] at h
  | missing => simp [hg] at h

theorem prints_of_git {id : String} {bytes : Bytes} (h : r.git (blobArgs id) = .output bytes) :
    r.prints id = true ∧ r.contentOf id = bytes := by
  simp [prints, contentOf, h]

/-- The blobs that are not due are those that are kept. -/
theorem not_due_iff {calls : List GitCall} {id : String} :
    ¬ r.Due calls id ↔ id ∈ (order (r.reads calls)).take r.cacheSize.toNat := by
  rw [mem_take_order, Due, not_or, not_not, not_le]
  refine and_congr_right fun _ => ?_
  omega

@[simp] theorem caches_seen (s : Session) :
    (r.seen s).caches r.number = kept r.contentOf r.cacheSize.toNat (r.reads s.calls) := if_pos rfl

/-! ### Computations with and without the cache -/

/-- The computation `x` with the cache does what `y` does without it: it has the same outcome, and
its session is the other one as seen with the cache. -/
def Mirrors (r : Repository) (x y : Reading α) : Prop :=
  ∀ s, s.caches r.number = [] → (y.start s).2.caches r.number = [] ∧
    x.start (r.seen s) = ((y.start s).1, r.seen (y.start s).2)

theorem mirrors_pure (a : α) : Mirrors r (pure a) (pure a) := fun _ hs => ⟨hs, rfl⟩

theorem mirrors_throw (e : Failure) : Mirrors r (throw e : Reading α) (throw e) :=
  fun _ hs => ⟨hs, rfl⟩

theorem Mirrors.bind {x y : Reading α} {f g : α → Reading β} (hx : Mirrors r x y)
    (hf : ∀ a, Mirrors r (f a) (g a)) : Mirrors r (x >>= f) (y >>= g) := by
  intro s hs
  obtain ⟨hempty, hstart⟩ := hx s hs
  rw [start_bind, start_bind, hstart]
  rcases hy : y.start s with ⟨e | a, s'⟩
  · rw [hy] at hempty
    exact ⟨hempty, rfl⟩
  · rw [hy] at hempty
    exact hf a s' hempty

theorem Mirrors.map {x y : Reading α} (hx : Mirrors r x y) (f : α → β) :
    Mirrors r (f <$> x) (f <$> y) := by
  rw [map_eq_pure_bind, map_eq_pure_bind]
  exact hx.bind fun a => mirrors_pure (f a)

theorem Mirrors.tryCatch {x y : Reading α} {f g : Failure → Reading α} (hx : Mirrors r x y)
    (hf : ∀ e, Mirrors r (f e) (g e)) : Mirrors r (tryCatch x f) (tryCatch y g) := by
  intro s hs
  obtain ⟨hempty, hstart⟩ := hx s hs
  rw [start_tryCatch, start_tryCatch, hstart]
  rcases hy : y.start s with ⟨e | a, s'⟩
  · rw [hy] at hempty
    exact hf e s' hempty
  · rw [hy] at hempty
    exact ⟨hempty, rfl⟩

theorem Mirrors.mapM {f g : α → Reading β} :
    ∀ {l : List α}, (∀ a ∈ l, Mirrors r (f a) (g a)) → Mirrors r (l.mapM f) (l.mapM g)
  | [], _ => mirrors_pure []
  | a :: l, h => by
    have ih : Mirrors r (l.mapM f) (l.mapM g) :=
      Mirrors.mapM fun b hb => h b (List.mem_cons_of_mem a hb)
    rw [List.mapM_cons, List.mapM_cons]
    exact (h a List.mem_cons_self).bind fun b => ih.bind fun bs => mirrors_pure (b :: bs)

/-! ### Calls and blobs -/

/-- The session with one more call in its journal. -/
def noting (r : Repository) (args : List String) (s : Session) : Session :=
  { s with calls := r.entry args :: s.calls }

/-- The reply of git to a request for a blob. -/
def reply (r : Repository) (id : String) : Except Failure Bytes :=
  ((r.git (blobArgs id)).toExcept (blobArgs id)).mapError .git

theorem reply_of_prints {id : String} (h : r.prints id = true) :
    r.reply id = .ok (r.contentOf id) := by
  rw [reply, git_of_prints h]
  rfl

theorem exists_reply_of_not_prints {id : String} (h : ¬ r.prints id = true) :
    ∃ e, r.reply id = .error e := by
  unfold reply
  cases hg : r.git (blobArgs id) with
  | output bytes => exact absurd (prints_of_git hg).1 h
  | failed code stderr => exact ⟨_, rfl⟩
  | missing => exact ⟨_, rfl⟩

theorem start_call (r : Repository) (args : List String) (s : Session) :
    (r.call args).start s = (((r.git args).toExcept args).mapError .git, r.noting args s) := by
  unfold call callGit
  rw [start_bind]
  cases hg : (r.git args).toExcept args with
  | ok bytes => rfl
  | error e => rfl

/-- A call that asks for no blob is made with and without the cache. -/
theorem mirrors_call {args : List String} (h : (r.entry args).asked? = none) :
    Mirrors r (r.call args) (r.uncached.call args) := by
  intro s hs
  rw [start_call, start_call]
  refine ⟨hs, ?_⟩
  have hreads : r.reads (r.entry args :: s.calls) = r.reads s.calls := reads_cons_of_none h _
  have hissued : r.issued (r.entry args :: s.calls) = r.entry args :: r.issued s.calls :=
    issued_cons_of_none h _
  have hseen : r.noting args (r.seen s) = r.seen (r.noting args s) := by
    simp only [noting, seen, hreads, hissued]
  exact Prod.ext rfl hseen

theorem start_get (s : Session) : (get : Reading Session).start s = (.ok s, s) := rfl

theorem start_blob_of_kept {id : String} {bytes : Bytes} {s : Session}
    (h : (s.caches r.number).get? id = some bytes) :
    (r.blob id).start s = (.ok bytes, r.keep id bytes s) := by
  unfold blob
  rw [start_bind, start_get]
  simp only [h]
  rfl

/-- A blob that is not kept is asked of git, and kept if git prints it. -/
theorem start_blob_of_not_kept {id : String} {s : Session}
    (h : (s.caches r.number).get? id = none) :
    (r.blob id).start s = (r.reply id, if r.prints id then
      r.keep id (r.contentOf id) (r.noting (blobArgs id) s) else r.noting (blobArgs id) s) := by
  have hblob : (r.blob id).start s = (do
      let bytes ← r.call (blobArgs id)
      modify (r.keep id bytes)
      return bytes : Reading Bytes).start s := by
    unfold blob
    rw [start_bind, start_get]
    simp only [h]
    rfl
  rw [hblob, start_bind, start_call]
  have hreply : ((r.git (blobArgs id)).toExcept (blobArgs id)).mapError .git = r.reply id := rfl
  rw [hreply]
  by_cases hp : r.prints id = true
  · rw [reply_of_prints hp, if_pos hp]
    rfl
  · obtain ⟨e, he⟩ := exists_reply_of_not_prints hp
    rw [he, if_neg hp]

/-- Without the cache every request is a call. -/
theorem start_uncached_blob (r : Repository) (id : String) {s : Session}
    (hs : s.caches r.number = []) :
    (r.uncached.blob id).start s = (r.reply id, r.noting (blobArgs id) s) := by
  have hget : (s.caches r.uncached.number).get? id = none := by
    have h : s.caches r.uncached.number = [] := hs
    rw [h]
    rfl
  rw [start_blob_of_not_kept hget]
  refine Prod.ext rfl ?_
  change (if r.prints id then r.uncached.keep id (r.contentOf id) (r.noting (blobArgs id) s)
    else r.noting (blobArgs id) s) = _
  split
  · -- keeping at most no blob leaves the empty cache
    have hcaches : (fun n => if n = r.number then
        (s.caches r.number).use (Int.toNat 0) id (r.contentOf id) else s.caches n) = s.caches := by
      funext n
      by_cases hn : n = r.number
      · rw [if_pos hn, hn, hs]
        rfl
      · rw [if_neg hn]
    change ({ s with
      caches := fun n => if n = r.number then
        (s.caches r.number).use (Int.toNat 0) id (r.contentOf id) else s.caches n
      calls := r.entry (blobArgs id) :: s.calls } : Session) = _
    rw [hcaches]
    rfl
  · rfl

/-- One more use of a blob in a session as it is seen with the cache. -/
theorem keep_seen {s : Session} {id : String} {calls calls' : List GitCall}
    (hreads : r.reads calls' = id :: r.reads s.calls) (hcalls : r.issued calls' = calls) :
    r.keep id (r.contentOf id) { r.seen s with calls := calls } =
      r.seen { s with calls := calls' } := by
  unfold keep Session.setCache seen
  simp only [if_true, use_kept, hreads, hcalls]
  congr 1
  funext n
  split <;> rfl

/-- **A blob is read with the cache as without it**, except that git is asked only for what is
due. -/
theorem mirrors_blob (r : Repository) (id : String) :
    Mirrors r (r.blob id) (r.uncached.blob id) := by
  intro s hs
  rw [start_uncached_blob r id hs]
  refine ⟨hs, ?_⟩
  have hasked : (r.entry (blobArgs id)).asked? = some id := rfl
  by_cases hd : r.Due s.calls id
  · have hget : ((r.seen s).caches r.number).get? id = none := by
      rw [caches_seen]
      exact get?_kept_of_not_mem fun hmem => not_due_iff.mpr hmem hd
    have hissued := issued_cons_of_due hasked hd
    rw [start_blob_of_not_kept hget]
    refine Prod.ext rfl ?_
    by_cases hp : r.prints id = true
    · rw [if_pos hp]
      exact keep_seen (reads_cons_of_prints hasked hp s.calls) hissued
    · rw [if_neg hp]
      have hreads := reads_cons_of_not_prints hasked hp s.calls
      simp only [noting, seen, hreads, hissued]
  · have hp : r.prints id = true := by
      have hmem : id ∈ r.reads s.calls := by
        by_contra h
        exact hd (Or.inl h)
      exact prints_of_mem_reads hmem
    have hget : ((r.seen s).caches r.number).get? id = some (r.contentOf id) := by
      rw [caches_seen]
      exact get?_kept_of_mem (not_due_iff.mp hd)
    rw [start_blob_of_kept hget, reply_of_prints hp]
    refine Prod.ext rfl ?_
    exact keep_seen (reads_cons_of_prints hasked hp s.calls) (issued_cons_of_not_due hasked hd)

/-- A request as it is seen with the cache. -/
theorem start_blob_seen (r : Repository) (id : String) {s : Session}
    (hs : s.caches r.number = []) :
    (r.blob id).start (r.seen s) = (r.reply id, r.seen (r.noting (blobArgs id) s)) := by
  have h := (mirrors_blob r id s hs).2
  rwa [start_uncached_blob r id hs] at h

/-! ### Reading a history -/

theorem mirrors_commitIds (r : Repository) : Mirrors r r.commitIds r.uncached.commitIds := by
  have hcommits : Mirrors r r.hasCommits r.uncached.hasCommits := by
    refine Mirrors.tryCatch ((mirrors_call rfl).bind fun _ => mirrors_pure true) fun e => ?_
    cases e with
    | git e => exact mirrors_pure false
    | path e => exact mirrors_throw _
    | unknownBlob id => exact mirrors_throw _
    | violation v => exact mirrors_throw _
  refine hcommits.bind fun some => ?_
  cases some with
  | false => exact mirrors_pure []
  | true => exact ((mirrors_call rfl).map _).bind fun output => mirrors_pure _

theorem mirrors_commitMessage (r : Repository) (id : String) :
    Mirrors r (r.commitMessage id) (r.uncached.commitMessage id) := by
  refine (mirrors_call rfl).bind fun raw => ?_
  cases Utf8.decode raw with
  | ok text => exact mirrors_pure _
  | error e => exact mirrors_pure none

theorem mirrors_changedFiles (r : Repository) (id : String) :
    Mirrors r (r.changedFiles id) (r.uncached.changedFiles id) := by
  refine (mirrors_call rfl).bind fun output => ?_
  exact Diff.changedFiles_related (Mirrors r) mirrors_pure Mirrors.bind
    (fun e => mirrors_throw (.path e)) (mirrors_blob r) output

theorem mirrors_commit (r : Repository) (id : String) :
    Mirrors r (r.commit id) (r.uncached.commit id) :=
  (mirrors_commitMessage r id).bind fun _ =>
    (mirrors_changedFiles r id).bind fun _ => mirrors_pure _

end Repository
end HouseRules
