import HouseRules.Proofs.Diff.Sections
import HouseRules.Proofs.History.Reading

/-! # What a repository reads

As long as the blobs kept in a session are those that git prints (`Faithful`), reading a blob
gives what git prints, whether it is kept or not (`gives_blob`), and the session stays faithful.
So nothing that is read from a repository depends on what was read before. -/

namespace HouseRules

open Reading

/-! ### Kept blobs -/

namespace BlobCache

/-- After a use of a blob, what is kept is that blob or was kept before. -/
theorem get?_use {bound : Nat} {c : BlobCache} {id x : String} {bytes b : Bytes}
    (h : (c.use bound id bytes).get? x = some b) : (x = id ∧ b = bytes) ∨ c.get? x = some b := by
  obtain ⟨q, hq, rfl⟩ := Option.map_eq_some_iff.mp h
  have hfull := (List.take_prefix bound _).find?_eq_some hq
  rw [List.find?_cons] at hfull
  by_cases hx : id = x
  · rw [beq_iff_eq.mpr hx] at hfull
    cases hfull
    exact Or.inl ⟨hx.symm, rfl⟩
  · rw [beq_eq_false_iff_ne.mpr hx] at hfull
    rw [List.find?_filter] at hfull
    have hsame : (fun q : String × Bytes => decide ((q.1 != id) = true ∧ (q.1 == x) = true)) =
        fun q => q.1 == x := by
      funext q
      by_cases hq : q.1 = x
      · simp [hq, Ne.symm hx]
      · simp [hq]
    rw [hsame] at hfull
    exact Or.inr (Option.map_eq_some_iff.mpr ⟨q, hfull, rfl⟩)

end BlobCache

/-- The arguments that print a blob. -/
def blobArgs (id : String) : List String := ["cat-file", "blob", id]

/-- The blobs that are kept for repositories are those that their git prints. -/
def Faithful (rs : Repository → Prop) (s : Session) : Prop :=
  ∀ r, rs r → ∀ id bytes, (s.caches r.number).get? id = some bytes →
    r.git (blobArgs id) = .output bytes

/-- Repositories for which blobs are kept under the same number call the same git. -/
def Numbered (rs : Repository → Prop) : Prop :=
  ∀ r r', rs r → rs r' → r.number = r'.number → r.git = r'.git

/-- A session that has read nothing is faithful. -/
theorem faithful_default (rs : Repository → Prop) : Faithful rs {} := by
  intro r _ id bytes h
  cases h

section Faithful

variable {rs : Repository → Prop} {r : Repository}

theorem Faithful.keep (hn : Numbered rs) (hr : rs r) {id : String} {bytes : Bytes}
    (hg : r.git (blobArgs id) = .output bytes) {s : Session} (hs : Faithful rs s) :
    Faithful rs (r.keep id bytes s) := by
  intro r' hr' x b hx
  by_cases hnum : r'.number = r.number
  · rw [Repository.keep, Session.setCache] at hx
    simp only [hnum, if_true] at hx
    rw [hn r' r hr' hr hnum]
    rcases BlobCache.get?_use hx with ⟨rfl, rfl⟩ | hx
    · exact hg
    · exact hs r hr x b hx
  · rw [Repository.keep, Session.setCache] at hx
    simp only [if_neg hnum] at hx
    exact hs r' hr' x b hx

/-! ### Calls -/

theorem gives_call (rs : Repository → Prop) (r : Repository) (args : List String) :
    Gives (Faithful rs) (r.call args) (((r.git args).toExcept args).mapError .git) :=
  Gives.bind (x := modify fun s => { s with calls := ⟨args, r.path.toString⟩ :: s.calls })
    (gives_modify fun _ hs => hs) (gives_ofExcept _ _)

theorem gives_call_output {args : List String} {bytes : Bytes} (h : r.git args = .output bytes) :
    Gives (Faithful rs) (r.call args) (.ok bytes) := by
  have hcall := gives_call rs r args
  rwa [h] at hcall

theorem steady_call (r : Repository) (args : List String) : Steady (Faithful rs) (r.call args) :=
  ⟨_, gives_call rs r args⟩

theorem gives_keep (hn : Numbered rs) (hr : rs r) {id : String} {bytes : Bytes}
    (hg : r.git (blobArgs id) = .output bytes) :
    Gives (Faithful rs) (do modify (r.keep id bytes); return bytes) (.ok bytes) :=
  Gives.bind (gives_modify fun _ hs => hs.keep hn hr hg) (gives_pure bytes)

/-- **A blob is what git prints for it**, kept or not. -/
theorem gives_blob (hn : Numbered rs) (hr : rs r) (id : String) :
    Gives (Faithful rs) (r.blob id)
      (((r.git (blobArgs id)).toExcept (blobArgs id)).mapError .git) := by
  refine gives_get_bind fun s hs => ?_
  cases hc : (s.caches r.number).get? id with
  | some bytes =>
    have hg := hs r hr id bytes hc
    rw [hg]
    exact gives_keep hn hr hg s hs
  | none =>
    have hcall := gives_call rs r (blobArgs id)
    cases hg : r.git (blobArgs id) with
    | output bytes =>
      rw [hg] at hcall
      exact hcall.bind (gives_keep hn hr hg) s hs
    | failed code stderr =>
      rw [hg] at hcall
      exact hcall.bind_error _ s hs
    | missing =>
      rw [hg] at hcall
      exact hcall.bind_error _ s hs

/-- Some commit has been made if git says so. -/
theorem gives_hasCommits (r : Repository) : Gives (Faithful rs) r.hasCommits
    (.ok (match r.git ["rev-parse", "--verify", "-q", "HEAD"] with
      | .output _ => true
      | _ => false)) := by
  have hcall := gives_call rs r ["rev-parse", "--verify", "-q", "HEAD"]
  cases hg : r.git ["rev-parse", "--verify", "-q", "HEAD"] with
  | output bytes =>
    rw [hg] at hcall
    exact (hcall.bind (gives_pure true)).tryCatch_ok _
  | failed code stderr =>
    rw [hg] at hcall
    exact (hcall.bind_error _).tryCatch_error (gives_pure false)
  | missing =>
    rw [hg] at hcall
    exact (hcall.bind_error _).tryCatch_error (gives_pure false)

/-! ### Nothing read depends on what was read before -/

theorem steady_blob (hn : Numbered rs) (hr : rs r) (id : String) :
    Steady (Faithful rs) (r.blob id) := ⟨_, gives_blob hn hr id⟩

theorem steady_commitIds (rs : Repository → Prop) (r : Repository) :
    Steady (Faithful rs) r.commitIds := by
  refine Steady.bind ⟨_, gives_hasCommits r⟩ fun some => ?_
  cases some with
  | false => exact steady_pure []
  | true => exact ((steady_call r _).map _).bind fun output => steady_pure _

theorem steady_resolve (hn : Numbered rs) (hr : rs r) (e : Diff.Entry) :
    Steady (Faithful rs) (e.resolve r.blob) := by
  unfold Diff.Entry.resolve
  cases e.wanted? with
  | none => exact steady_pure _
  | some id => exact (steady_blob hn hr id).bind fun bytes => steady_pure _

theorem steady_fileOf (hn : Numbered rs) (hr : rs r)
    (reading : Except Diff.PathError (Option Diff.Entry)) :
    Steady (Faithful rs) (Diff.fileOf Reading.exit.fail r.blob reading) := by
  unfold Diff.fileOf
  rcases reading with e | _ | e
  · exact ⟨_, (gives_throw (.path e)).bind_error _⟩
  · exact steady_pure none
  · exact (steady_resolve hn hr e).map some

theorem steady_changedFiles (hn : Numbered rs) (hr : rs r) (id : String) :
    Steady (Faithful rs) (r.changedFiles id) := by
  refine (steady_call r _).bind fun output => ?_
  rw [Diff.changedFiles_eq]
  exact (Steady.mapM fun reading _ => steady_fileOf hn hr reading).map _

theorem steady_commitMessage (id : String) : Steady (Faithful rs) (r.commitMessage id) := by
  refine (steady_call r _).bind fun raw => ?_
  cases Utf8.decode raw with
  | ok text => exact steady_pure _
  | error e => exact steady_pure none

theorem steady_commit (hn : Numbered rs) (hr : rs r) (id : String) :
    Steady (Faithful rs) (r.commit id) :=
  (steady_commitMessage id).bind fun _ =>
    (steady_changedFiles hn hr id).bind fun _ => steady_pure _

end Faithful

end HouseRules
