import HouseRules.Proofs.Diff.RoundTrip
import HouseRules.Proofs.History.Repository

/-! # Reading a recorded repository

A recording whose commits have names of their own and print patches is read as recorded: its commits
in their order (`gives_commitIds`), each with its message and with the files that its patches change
(`gives_commit`). -/

namespace HouseRules

open Reading Diff

namespace Recording

/-- The blob of the given name. -/
def blob? (rec : Recording) (id : String) : Option Bytes := (rec.blobs.find? (·.1 == id)).map (·.2)

/-- The blob of the given name, empty if there is none. -/
def blobOf (rec : Recording) (id : String) : Bytes := (rec.blob? id).getD []

/-- The commits print messages that are text and patches that fit the blobs, and no call fails. -/
structure Prints (rec : Recording) (text : RecordedCommit → String)
    (patches : RecordedCommit → List FilePatch) : Prop where
  /-- No call is made to fail. -/
  noFailures : rec.failures = []
  /-- The commits have different names. -/
  distinct : (rec.commits.map (·.id)).Nodup
  /-- A name is not empty and has no line feed. -/
  named : ∀ c ∈ rec.commits, c.id ≠ "" ∧ '\n' ∉ c.id.toList
  /-- What is printed for a message is text. -/
  message : ∀ c ∈ rec.commits, c.message = Utf8.encode (text c)
  /-- What is printed for the changes are patches. -/
  diff : ∀ c ∈ rec.commits, c.diff = write (patches c)
  /-- The blobs that lines are added to are there. -/
  present : ∀ c ∈ rec.commits, ∀ p ∈ patches c, ∀ h, p.neededBlob? = some h →
    (rec.blob? h.name).isSome = true
  /-- The added lines stand in them. -/
  fits : ∀ c ∈ rec.commits, ∀ p ∈ patches c, p.Fits rec.blobOf

variable {rec : Recording}

/-! ### Replies -/

theorem git_eq_answer (h : rec.failures = []) (args : List String) :
    rec.git args = rec.answer args := by
  rw [git, h]
  rfl

theorem answer_verify (rec : Recording) :
    rec.answer ["rev-parse", "--verify", "-q", "HEAD"] =
      if rec.commits.isEmpty then .failed 1 [] else .output [] := by
  rw [answer, if_neg (by decide), if_pos rfl]

theorem answer_revList (rec : Recording) : rec.answer ["rev-list", "HEAD"] =
    .output (rec.commits.flatMap fun c => Utf8.encode (c.id ++ "\n")) := by
  rw [answer, if_neg (by decide), if_neg (by decide), if_pos rfl]

theorem find?_of_nodup {c : RecordedCommit} : ∀ {cs : List RecordedCommit},
    (cs.map (·.id)).Nodup → c ∈ cs → cs.find? (·.id == c.id) = some c
  | [], _, hc => by cases hc
  | c' :: cs, h, hc => by
    rw [List.map_cons, List.nodup_cons] at h
    rcases List.mem_cons.mp hc with rfl | hc
    · exact List.find?_cons_of_pos (beq_self_eq_true c.id)
    · have hne : c'.id ≠ c.id := fun he => h.1 (he ▸ List.mem_map_of_mem hc)
      rw [List.find?_cons_of_neg (by rw [beq_eq_false_iff_ne.mpr hne]; decide)]
      exact find?_of_nodup h.2 hc

/-- The reply to a call about a commit or a blob, whose name comes last. -/
theorem answer_of_head {args : List String} {word : String} (hw : args.head? = some word)
    (h1 : word ≠ "rev-parse") (h2 : word ≠ "rev-list") : rec.answer args =
      match some word, rec.commits.find? (·.id == args.getLastD ""),
        rec.blobs.find? (·.1 == args.getLastD "") with
      | some "show", some c, _ => .output c.message
      | some "diff-tree", some c, _ => .output c.diff
      | some "cat-file", _, some (_, bytes) => .output bytes
      | _, _, _ => badObject (args.getLastD "") := by
  have hne : ∀ {first : String} {rest : List String}, word ≠ first → args ≠ first :: rest := by
    rintro first rest hf rfl
    exact hf (Option.some.inj hw).symm
  rw [answer, if_neg (hne h1), if_neg (hne h1), if_neg (hne h2)]
  exact hw ▸ rfl

theorem answer_show {c : RecordedCommit} (h : rec.commits.find? (·.id == c.id) = some c) :
    rec.answer ["show", "-s", "--format=%B", c.id] = .output c.message := by
  have hlast : List.getLastD ["show", "-s", "--format=%B", c.id] "" = c.id := rfl
  rw [answer_of_head rfl (by decide) (by decide), hlast, h]
  rfl

theorem answer_diff {c : RecordedCommit} (h : rec.commits.find? (·.id == c.id) = some c) :
    rec.answer (Repository.diffArgs c.id) = .output c.diff := by
  have hlast : (Repository.diffArgs c.id).getLastD "" = c.id := rfl
  rw [answer_of_head rfl (by decide) (by decide), hlast, h]
  rfl

theorem answer_blob {id : String} (h : (rec.blob? id).isSome = true) :
    rec.answer (blobArgs id) = .output (rec.blobOf id) := by
  have hlast : (blobArgs id).getLastD "" = id := rfl
  obtain ⟨bytes, hb⟩ := Option.isSome_iff_exists.mp h
  obtain ⟨q, hq, rfl⟩ := Option.map_eq_some_iff.mp hb
  rw [answer_of_head rfl (by decide) (by decide), hlast, hq, blobOf, hb]
  rfl

/-! ### Reading -/

/-- The names that are printed are read back. -/
theorem pieces_names {ids : List String} (h : ∀ id ∈ ids, id ≠ "" ∧ '\n' ∉ id.toList) :
    ((Search.pieces '\n' (Utf8.decodeLossy
      (ids.flatMap fun id => Utf8.encode (id ++ "\n"))).toList).filter (· ≠ [])).map String.ofList =
      ids := by
  have hchars : (Utf8.decodeLossy (ids.flatMap fun id => Utf8.encode (id ++ "\n"))).toList =
      (ids.map String.toList).flatMap (· ++ ['\n']) := by
    have henc : (ids.flatMap fun id => Utf8.encode (id ++ "\n")) =
        Utf8.encodeList ((ids.map String.toList).flatMap (· ++ ['\n'])) := by
      rw [Utf8.encodeList, List.flatMap_assoc, List.flatMap_map]
      refine List.flatMap_congr fun id _ => ?_
      rw [Utf8.encode, String.toList_append]
      rfl
    rw [Utf8.decodeLossy, String.toList_ofList, henc, Utf8.decodeLossyList_encodeList]
  have hsingle : ∀ l ∈ ids.map String.toList, '\n' ∉ l := by
    intro l hl
    obtain ⟨id, hid, rfl⟩ := List.mem_map.mp hl
    exact (h id hid).2
  have hnonempty : ∀ l ∈ ids.map String.toList, decide (l ≠ []) = true := by
    intro l hl
    obtain ⟨id, hid, rfl⟩ := List.mem_map.mp hl
    rw [decide_eq_true_eq, Ne, String.toList_eq_nil_iff]
    exact (h id hid).1
  have hpieces := Search.pieces_flatMap_append [] hsingle
  rw [List.append_nil] at hpieces
  rw [hchars, hpieces, List.filter_append, List.filter_eq_self.mpr hnonempty, List.map_append,
    List.map_map]
  change ids.map (String.ofList ∘ String.toList) ++ [] = ids
  rw [List.append_nil]
  exact (List.map_congr_left fun id _ => String.ofList_toList).trans (List.map_id ids)

section Reading

variable {text : RecordedCommit → String} {patches : RecordedCommit → List FilePatch}
  (hp : rec.Prints text patches) {rs : Repository → Prop} {r : Repository} (hn : Numbered rs)
  (hr : rs r) (hgit : r.git = rec.git)

include hp hgit

theorem gives_commitIds : Gives (Faithful rs) r.commitIds (.ok (rec.commits.map (·.id))) := by
  have hverify : r.git ["rev-parse", "--verify", "-q", "HEAD"] =
      if rec.commits.isEmpty then .failed 1 [] else .output [] := by
    rw [hgit, git_eq_answer hp.noFailures, answer_verify]
  have hlist : r.git ["rev-list", "HEAD"] =
      .output (rec.commits.flatMap fun c => Utf8.encode (c.id ++ "\n")) := by
    rw [hgit, git_eq_answer hp.noFailures, answer_revList]
  have hsome : Gives (Faithful rs) r.hasCommits _ := gives_hasCommits r
  rw [hverify] at hsome
  cases hc : rec.commits with
  | nil =>
    rw [hc] at hsome
    exact hsome.bind (gives_pure [])
  | cons c cs =>
    rw [hc] at hsome
    have hnamed : ∀ id ∈ rec.commits.map (·.id), id ≠ "" ∧ '\n' ∉ id.toList := by
      intro id hid
      obtain ⟨c, hc, rfl⟩ := List.mem_map.mp hid
      exact hp.named c hc
    have hnames := pieces_names hnamed
    rw [List.flatMap_map] at hnames
    rw [← hc]
    refine hsome.bind (((gives_call_output hlist).map Utf8.decodeLossy).bind ?_)
    rw [hnames]
    exact gives_pure _

include hn hr

theorem gives_blob {id : String} (h : (rec.blob? id).isSome = true) :
    Gives (Faithful rs) (r.blob id) (.ok (rec.blobOf id)) := by
  have hblob := HouseRules.gives_blob hn hr id
  rwa [hgit, git_eq_answer hp.noFailures, answer_blob h] at hblob

/-- The files of a commit are those that its patches change. -/
theorem gives_changedFiles {c : RecordedCommit} (hc : c ∈ rec.commits) :
    Gives (Faithful rs) (r.changedFiles c.id)
      (.ok ((patches c).map (·.changedFile rec.blobOf))) := by
  have hdiff : r.git (Repository.diffArgs c.id) = .output (write (patches c)) := by
    rw [hgit, git_eq_answer hp.noFailures, answer_diff (find?_of_nodup hp.distinct hc),
      hp.diff c hc]
  refine (gives_call_output hdiff).bind ?_
  rw [changedFiles_write_eq]
  refine Gives.mapM fun p hpc => ?_
  cases hneeded : p.neededBlob? with
  | none =>
    rw [FilePatch.resolve_none hneeded _ rec.blobOf]
    exact gives_pure _
  | some h =>
    rw [FilePatch.resolve_some hneeded]
    refine (gives_blob hp hn hr hgit (hp.present c hc p hpc h hneeded)).bind ?_
    rw [FilePatch.file_entry (hp.fits c hc p hpc) (FilePatch.newBlob?_of_needed hneeded)]
    exact gives_pure _

/-- **A commit is read as recorded.** -/
theorem gives_commit {c : RecordedCommit} (hc : c ∈ rec.commits) :
    Gives (Faithful rs) (r.commit c.id)
      (.ok ⟨c.id, some (Text.stripEndOf ['\n'] (text c)),
        (patches c).map (·.changedFile rec.blobOf)⟩) := by
  have hshow : r.git ["show", "-s", "--format=%B", c.id] = .output (Utf8.encode (text c)) := by
    rw [hgit, git_eq_answer hp.noFailures, answer_show (find?_of_nodup hp.distinct hc),
      hp.message c hc]
  have hmessage : Gives (Faithful rs) (r.commitMessage c.id)
      (.ok (some (Text.stripEndOf ['\n'] (text c)))) := by
    refine (gives_call_output hshow).bind ?_
    rw [Utf8.decode_encode]
    exact gives_pure _
  exact hmessage.bind ((gives_changedFiles hp hn hr hgit hc).bind (gives_pure _))

end Reading

end Recording

end HouseRules
