import HouseRules.Proofs.Diff.ReadLine
import HouseRules.Proofs.Diff.Sections
import Mathlib.Data.List.Induction

/-! # The blobs that a diff asks for

A section needs a blob (`Section.Needs`) if its title names a path, its last `index` line before the
hunks names a blob, some line of its hunks is added, and it does not stand for a commit of another
repository. A diff is gone through section by section, and the loader is asked for the blobs of the
sections that need one, in their order and once for each (`outcomeOf_requests`); a failure ends
this, and without one all sections are gone through.

What the reader keeps of the lines before the hunks is told from the last of them that speak of it,
by induction from their end (`foldlM_before_hunks`). -/

namespace HouseRules.Diff

/-! ### What a section says -/

namespace Section

/-- The lines before the first hunk. -/
def header (s : Section) : List Bytes := s.body.takeWhile fun line => (hunkStart? line).isNone

/-- The first line of the first hunk, and all lines behind it. -/
def hunks (s : Section) : List Bytes := s.body.dropWhile fun line => (hunkStart? line).isNone

end Section

/-- The second hash of the last `index` line. -/
def newHash? (ls : List Bytes) : Option Bytes := (ls.filterMap indexLine?).getLast?.map (·.1)

/-- The mode of the last line on a new mode. -/
def lastMode? (ls : List Bytes) : Option Bytes := (ls.filterMap newMode?).getLast?

/-- The lines behind the last one on a new mode, or all if there is none. -/
def behindMode (ls : List Bytes) : List Bytes :=
  (ls.reverse.takeWhile fun line => (newMode? line).isNone).reverse

/-- The last new mode is that of commits, or an `index` line behind it gives this mode. -/
def namesCommit (ls : List Bytes) : Bool :=
  lastMode? ls == some gitlinkMode ||
    (behindMode ls).any fun line => (indexLine? line).any (·.2 == some gitlinkMode)

/-- Some line starts with a plus sign. -/
def hasAdded (ls : List Bytes) : Bool := ls.any (·.head? == some 0x2B)

/-- **The section needs a blob.** -/
structure Section.Needs (s : Section) (id : String) : Prop where
  titled : ∃ path, titlePath? s.title = .ok (some path)
  named : ∃ hash, newHash? s.header = some hash ∧ (∃ x ∈ hash, x ≠ 0x30) ∧ id = Bytes.toAscii hash
  added : ∃ line ∈ s.hunks, line.head? = some 0x2B
  mode : lastMode? s.header ≠ some gitlinkMode
  indexMode : ∀ line ∈ behindMode s.header, ∀ hash, indexLine? line ≠ some (hash, some gitlinkMode)

/-- The blob that the section needs. -/
def Section.needed? (s : Section) : Option String :=
  match titlePath? s.title with
  | .error _ => none
  | .ok none => none
  | .ok (some _) =>
    if hasAdded s.hunks && !namesCommit s.header then (newHash? s.header).bind blobName? else none

theorem blobName?_eq_some_iff {hash : Bytes} {id : String} :
    blobName? hash = some id ↔ (∃ x ∈ hash, x ≠ 0x30) ∧ id = Bytes.toAscii hash := by
  unfold blobName?
  split_ifs with h
  · rw [List.all_eq_true] at h
    constructor
    · rintro ⟨⟩
    · rintro ⟨⟨x, hx, hne⟩, -⟩
      exact absurd (beq_iff_eq.mp (h x hx)) hne
  · have hsome : ∃ x ∈ hash, x ≠ 0x30 := by
      by_contra hnone
      refine h (List.all_eq_true.mpr fun x hx => ?_)
      by_contra hx'
      exact hnone ⟨x, hx, fun hc => hx' (beq_iff_eq.mpr hc)⟩
    rw [Option.some.injEq]
    exact ⟨fun hid => ⟨hsome, hid.symm⟩, fun hid => hid.2.symm⟩

theorem namesCommit_eq_false_iff {ls : List Bytes} : namesCommit ls = false ↔
    lastMode? ls ≠ some gitlinkMode ∧
      ∀ line ∈ behindMode ls, ∀ hash, indexLine? line ≠ some (hash, some gitlinkMode) := by
  rw [namesCommit, Bool.or_eq_false_iff, beq_eq_false_iff_ne, List.any_eq_false]
  refine and_congr_right fun _ => forall_congr' fun line => imp_congr_right fun _ => ?_
  cases indexLine? line with
  | none => simp
  | some q =>
    obtain ⟨hash, mode⟩ := q
    simp

theorem Section.needed?_eq_some_iff {s : Section} {id : String} :
    s.needed? = some id ↔ s.Needs id := by
  have hadded : hasAdded s.hunks = true ↔ ∃ line ∈ s.hunks, line.head? = some 0x2B := by
    simp [hasAdded]
  constructor
  · intro h
    unfold needed? at h
    split at h
    · cases h
    · cases h
    · rename_i path htitle
      split_ifs at h with hcond
      rw [Bool.and_eq_true, Bool.not_eq_true'] at hcond
      obtain ⟨hash, hhash, hname⟩ := Option.bind_eq_some_iff.mp h
      obtain ⟨hmode, hindex⟩ := namesCommit_eq_false_iff.mp hcond.2
      exact ⟨⟨path, htitle⟩, ⟨hash, hhash, blobName?_eq_some_iff.mp hname⟩, hadded.mp hcond.1,
        hmode, hindex⟩
  · intro h
    obtain ⟨path, htitle⟩ := h.titled
    obtain ⟨hash, hhash, hname⟩ := h.named
    have hmode := namesCommit_eq_false_iff.mpr ⟨h.mode, h.indexMode⟩
    rw [needed?, htitle, hadded.mpr h.added, hmode, hhash]
    exact blobName?_eq_some_iff.mpr hname

/-! ### Before the hunks -/

/-- **What a line before the hunks changes.** A line speaks of a mode or of blobs, not of both. -/
theorem readHeader_ok {q q' : Progress} {line : Bytes} (h : readHeader q line = .ok q') :
    q'.inHunk = q.inHunk ∧ q'.added = q.added ∧
      q'.blob = (match indexLine? line with
        | some (hash, _) => blobName? hash
        | none => q.blob) ∧
      q'.gitlink = (match newMode? line with
        | some mode => mode == gitlinkMode
        | none => q.gitlink || (indexLine? line).any (·.2 == some gitlinkMode)) := by
  have hother : ∀ {text : String} {x : UInt8}, (Bytes.ofAscii text).head? = some x → x ≠ 0x6E →
      x ≠ 0x69 → (Bytes.ofAscii text).isPrefixOf line = true →
      newMode? line = none ∧ indexLine? line = none := by
    intro text x hx hn hi hprefix
    obtain ⟨r, rfl⟩ := List.isPrefixOf_iff_prefix.mp hprefix
    have hhead := head?_ofAscii_append hx r
    exact ⟨newMode?_eq_none (by rw [hhead]; simpa using hn),
      indexLine?_eq_none (by rw [hhead]; simpa using hi)⟩
  unfold readHeader at h
  split_ifs at h with hold hnew
  · obtain ⟨hmode, hindex⟩ := hother (x := 0x2D) (by decide) (by decide) (by decide) hold
    cases hpath : headerPath? line (Bytes.ofAscii "a/") with
    | error e =>
      rw [hpath] at h
      cases h
    | ok path =>
      rw [hpath] at h
      cases h
      simp [hmode, hindex]
  · obtain ⟨hmode, hindex⟩ := hother (x := 0x2B) (by decide) (by decide) (by decide) hnew
    cases hpath : headerPath? line (Bytes.ofAscii "b/") with
    | error e =>
      rw [hpath] at h
      cases h
    | ok path =>
      rw [hpath] at h
      cases h
      simp [hmode, hindex]
  · cases hmode : newMode? line with
    | some mode =>
      have hhead : line.head? = some 0x6E := by
        by_contra hne
        rw [newMode?_eq_none hne] at hmode
        cases hmode
      have hindex : indexLine? line = none := indexLine?_eq_none (by rw [hhead]; decide)
      rw [hmode] at h
      cases h
      simp [hindex]
    | none =>
      rw [hmode] at h
      cases hindex : indexLine? line with
      | some p =>
        obtain ⟨hash, mode⟩ := p
        rw [hindex] at h
        cases h
        simp
      | none =>
        rw [hindex] at h
        cases h
        simp

theorem newHash?_concat (ls : List Bytes) (line : Bytes) : newHash? (ls ++ [line]) =
    match indexLine? line with
    | some (hash, _) => some hash
    | none => newHash? ls := by
  rw [newHash?, newHash?, List.filterMap_append]
  cases hindex : indexLine? line with
  | none => rw [List.filterMap_cons_none hindex, List.filterMap_nil, List.append_nil]
  | some q =>
    rw [List.filterMap_cons_some hindex, List.filterMap_nil, List.getLast?_concat]
    rfl

theorem namesCommit_concat (ls : List Bytes) (line : Bytes) : namesCommit (ls ++ [line]) =
    match newMode? line with
    | some mode => mode == gitlinkMode
    | none => namesCommit ls || (indexLine? line).any (·.2 == some gitlinkMode) := by
  cases hmode : newMode? line with
  | some mode =>
    have hlast : lastMode? (ls ++ [line]) = some mode := by simp [lastMode?, hmode]
    have hbehind : behindMode (ls ++ [line]) = [] := by simp [behindMode, hmode]
    simp [namesCommit, hlast, hbehind]
  | none =>
    have hlast : lastMode? (ls ++ [line]) = lastMode? ls := by simp [lastMode?, hmode]
    have hbehind : behindMode (ls ++ [line]) = behindMode ls ++ [line] := by
      simp [behindMode, hmode]
    simp only [namesCommit, hlast, hbehind, List.any_append, List.any_cons, List.any_nil,
      Bool.or_false, Bool.or_assoc]

/-- **What is known behind the lines before the hunks.** -/
theorem foldlM_before_hunks {path : String} {ls : List Bytes} {q : Progress}
    (hls : ∀ line ∈ ls, hunkStart? line = none)
    (h : ls.foldlM readLine { path := path } = .ok q) : q.inHunk = false ∧ q.added = [] ∧
      q.blob = (newHash? ls).bind blobName? ∧ q.gitlink = namesCommit ls := by
  induction ls using List.reverseRecOn generalizing q with
  | nil =>
    cases h
    exact ⟨rfl, rfl, rfl, rfl⟩
  | append_singleton ls line ih =>
    rw [List.foldlM_append] at h
    cases hfront : ls.foldlM readLine { path := path } with
    | error e =>
      rw [hfront] at h
      cases h
    | ok p =>
      rw [hfront] at h
      obtain ⟨hhunk, hadded, hblob, hgitlink⟩ :=
        ih (fun l hl => hls l (List.mem_append_left _ hl)) hfront
      have hline : readHeader p line = .ok q := by
        have hlast : [line].foldlM readLine p = .ok q := h
        have hread : readLine p line = .ok q := by simpa using hlast
        rw [readLine, hls line (by simp), hhunk] at hread
        exact hread
      obtain ⟨hhunk', hadded', hblob', hgitlink'⟩ := readHeader_ok hline
      refine ⟨hhunk'.trans hhunk, hadded'.trans hadded, ?_, ?_⟩
      · rw [hblob', newHash?_concat, hblob]
        cases indexLine? line <;> rfl
      · rw [hgitlink', namesCommit_concat, hgitlink]

/-! ### Within the hunks -/

theorem readLine_inHunk {q : Progress} (hq : q.inHunk = true) (line : Bytes) :
    ∃ q', readLine q line = .ok q' ∧ q'.inHunk = true ∧ q'.blob = q.blob ∧
      q'.gitlink = q.gitlink ∧ (q'.added = [] ↔ q.added = [] ∧ line.head? ≠ some 0x2B) := by
  cases hstart : hunkStart? line with
  | some n =>
    have hhead : line.head? = some 0x40 := by
      by_contra hne
      rw [hunkStart?_eq_none hne] at hstart
      cases hstart
    refine ⟨{ q with inHunk := true, next := n }, ?_, rfl, rfl, rfl, ?_⟩
    · rw [readLine, hstart]
    · simp [hhead]
  | none =>
    by_cases hplus : line.head? = some 0x2B
    · refine ⟨{ q with added := q.next :: q.added, next := q.next + 1 }, ?_, hq, rfl, rfl, ?_⟩
      · rw [readLine, hstart, hq, hplus]
        rfl
      · simp [hplus]
    · refine ⟨q, ?_, hq, rfl, rfl, ?_⟩
      · have hbeq : (line.head? == some 0x2B) = false := by simpa using hplus
        rw [readLine, hstart, hq, hbeq]
        rfl
      · simp [hplus]

/-- **The lines of the hunks** change only what is known of added lines. -/
theorem foldlM_inHunk : ∀ (ls : List Bytes) {q : Progress}, q.inHunk = true →
    ∃ q', ls.foldlM readLine q = .ok q' ∧ q'.blob = q.blob ∧ q'.gitlink = q.gitlink ∧
      (q'.added = [] ↔ q.added = [] ∧ hasAdded ls = false)
  | [], q, _ => ⟨q, rfl, rfl, rfl, by simp [hasAdded]⟩
  | line :: ls, q, hq => by
    obtain ⟨p, hline, hp, hblob, hgitlink, hadded⟩ := readLine_inHunk hq line
    obtain ⟨q', hrest, hblob', hgitlink', hadded'⟩ := foldlM_inHunk ls hp
    refine ⟨q', ?_, hblob'.trans hblob, hgitlink'.trans hgitlink, ?_⟩
    · rw [List.foldlM_cons, hline]
      exact hrest
    · rw [hadded', hadded, and_assoc, hasAdded, hasAdded, List.any_cons, Bool.or_eq_false_iff,
        beq_eq_false_iff_ne]

/-! ### A section -/

theorem hunkStart?_of_mem_header {s : Section} {line : Bytes} (h : line ∈ s.header) :
    hunkStart? line = none := by
  have hnone := List.all_eq_true.mp List.all_takeWhile line h
  simpa using hnone

/-- The hunks start with the first line of one. -/
theorem hunks_cases (s : Section) :
    s.hunks = [] ∨ ∃ line rest n, s.hunks = line :: rest ∧ hunkStart? line = some n := by
  cases hh : s.hunks with
  | nil => exact Or.inl rfl
  | cons line rest =>
    have hne : s.hunks ≠ [] := by
      rw [hh]
      simp
    have hhead : (hunkStart? (s.hunks.head hne)).isNone = false := List.head_dropWhile_not _ hne
    simp only [hh, List.head_cons, Option.isNone_eq_false_iff, Option.isSome_iff_exists] at hhead
    obtain ⟨n, hn⟩ := hhead
    exact Or.inr ⟨line, rest, n, rfl, hn⟩

/-- **What is known behind a section.** -/
theorem progress_of_foldlM {s : Section} {path : String} {q : Progress}
    (h : s.body.foldlM readLine { path := path } = .ok q) :
    q.blob = (newHash? s.header).bind blobName? ∧ q.gitlink = namesCommit s.header ∧
      (q.added = [] ↔ hasAdded s.hunks = false) := by
  have hbody : s.body = s.header ++ s.hunks := List.takeWhile_append_dropWhile.symm
  rw [hbody, List.foldlM_append] at h
  cases hheader : s.header.foldlM readLine { path := path } with
  | error e =>
    rw [hheader] at h
    cases h
  | ok p =>
    rw [hheader] at h
    obtain ⟨-, hadded, hblob, hgitlink⟩ :=
      foldlM_before_hunks (fun _ hl => hunkStart?_of_mem_header hl) hheader
    rcases hunks_cases s with hnil | ⟨line, rest, n, hhunks, hstart⟩
    · rw [hnil] at h ⊢
      cases h
      exact ⟨hblob, hgitlink, by simp [hadded, hasAdded]⟩
    · have hplus : line.head? ≠ some 0x2B := by
        intro hhead
        rw [hunkStart?_eq_none (by rw [hhead]; decide)] at hstart
        cases hstart
      have hline : readLine p line = .ok { p with inHunk := true, next := n } := by
        rw [readLine, hstart]
      obtain ⟨q', hrest, hblob', hgitlink', hadded'⟩ :=
        foldlM_inHunk rest (q := { p with inHunk := true, next := n }) rfl
      have hfold : s.hunks.foldlM readLine p = .ok q' := by
        rw [hhunks, List.foldlM_cons, hline]
        exact hrest
      have hq : q' = q := Except.ok.inj (hfold.symm.trans h)
      subst hq
      refine ⟨hblob'.trans hblob, hgitlink'.trans hgitlink, ?_⟩
      rw [hadded', hhunks]
      simp [hadded, hasAdded, hplus]

/-- **The blob that a section asks for** is the one that it needs. -/
theorem needed?_eq_wanted? {s : Section} {e? : Option Entry} (h : s.entry? = .ok e?) :
    s.needed? = e?.bind Entry.wanted? := by
  unfold Section.entry? at h
  cases htitle : titlePath? s.title with
  | error e =>
    rw [htitle] at h
    cases h
  | ok path? =>
    rw [htitle] at h
    cases path? with
    | none =>
      cases h
      rw [Section.needed?, htitle]
      rfl
    | some path =>
      cases hbody : s.body.foldlM readLine { path := path } with
      | error e =>
        simp only [hbody, bind, Except.bind] at h
        cases h
      | ok q =>
        simp only [hbody, bind, Except.bind] at h
        cases h
        obtain ⟨hblob, hgitlink, hadded⟩ := progress_of_foldlM hbody
        have hempty : q.added.reverse.isEmpty = !hasAdded s.hunks := by
          rw [Bool.eq_iff_iff, List.isEmpty_iff, List.reverse_eq_nil_iff, hadded]
          simp
        simp only [Section.needed?, htitle, Option.bind_some, Entry.wanted?, Progress.entry, hempty,
          hblob, hgitlink]
        cases hasAdded s.hunks <;> cases namesCommit s.header <;> rfl

/-! ### A diff -/

section Requests

variable {ε : Type} (wrap : PathError → ε) (load : String → Except ε Bytes)

/-- A section asks for the blob that it needs, unless it cannot be read. -/
theorem outcome_fileOf_section (s : Section) :
    (∃ e, (fileOf (Asking.exit wrap).fail (ask load) s.entry?).outcome =
      (.error e, [])) ∨
    ∃ o, (fileOf (Asking.exit wrap).fail (ask load) s.entry?).outcome =
      (o, s.needed?.toList) := by
  cases hentry : s.entry? with
  | error e => exact Or.inl ⟨wrap e, rfl⟩
  | ok e? =>
    right
    rw [needed?_eq_wanted? hentry]
    cases e? with
    | none => exact ⟨_, rfl⟩
    | some e =>
      have hfile : fileOf (Asking.exit wrap).fail (ask load) (.ok (some e)) =
          some <$> e.resolve (ask load) := rfl
      rw [hfile, map_eq_pure_bind, Asking.outcome_bind _ fun f => Asking.framed_pure (some f)]
      unfold Entry.resolve
      rw [Option.bind_some]
      cases e.wanted? with
      | none => exact ⟨_, rfl⟩
      | some id =>
        have hframed : ∀ bytes, (pure (e.file (some (id, bytes))) : Asking ε _).Framed :=
          fun bytes => Asking.framed_pure _
        simp only [Asking.outcome_bind _ hframed]
        cases hload : load id with
        | ok bytes =>
          rw [outcome_ask hload]
          exact ⟨_, rfl⟩
        | error failure =>
          have hask : (ask load id).outcome = (.error failure, [id]) := by
            unfold ask
            rw [hload]
            rfl
          rw [hask]
          exact ⟨_, rfl⟩

theorem outcome_mapM_sections : ∀ secs : List Section, ∃ n,
    ((secs.map Section.entry?).mapM
      (fileOf (Asking.exit wrap).fail (ask load))).outcome.2 =
        (secs.take n).filterMap Section.needed? ∧
    ∀ fs, ((secs.map Section.entry?).mapM
      (fileOf (Asking.exit wrap).fail (ask load))).outcome.1 = .ok fs →
        secs.length ≤ n
  | [] => ⟨0, rfl, fun _ _ => Nat.le_refl 0⟩
  | s :: secs => by
    obtain ⟨n, hasked, hall⟩ := outcome_mapM_sections secs
    have hframed := Asking.Framed.mapM (framed_fileOf wrap load) (secs.map Section.entry?)
    rw [List.map_cons, List.mapM_cons, Asking.outcome_bind _ fun f? =>
      hframed.bind fun fs => Asking.framed_pure (f? :: fs)]
    rcases outcome_fileOf_section wrap load s with ⟨e, hs⟩ | ⟨o, hs⟩
    · rw [hs]
      refine ⟨0, rfl, ?_⟩
      rintro fs ⟨⟩
    · rw [hs]
      cases o with
      | error e =>
        refine ⟨1, ?_, ?_⟩
        · simp only [andThen, List.take_succ_cons, List.take_zero]
          cases hneeded : s.needed? <;> simp [hneeded]
        · rintro fs ⟨⟩
      | ok f? =>
        refine ⟨n + 1, ?_, ?_⟩
        · simp only [andThen]
          rw [Asking.outcome_bind _ fun fs => Asking.framed_pure (f? :: fs)]
          have hsecond : ∀ p : Except ε (List (Option ChangedFile)) × List String,
              (andThen p fun fs => Asking.outcome (ε := ε) (pure (f? :: fs))).2 = p.2 := by
            rintro ⟨e | fs, ids⟩
            · rfl
            · exact List.append_nil ids
          rw [hsecond, hasked, List.take_succ_cons]
          cases hneeded : s.needed? <;> simp [hneeded]
        · intro fs hfs
          simp only [andThen] at hfs
          rw [Asking.outcome_bind _ fun fs => Asking.framed_pure (f? :: fs)] at hfs
          cases ho : ((secs.map Section.entry?).mapM
              (fileOf (Asking.exit wrap).fail (ask load))).outcome with
          | mk o ids =>
            rw [ho] at hfs hall
            cases o with
            | error e => cases hfs
            | ok fs' =>
              have hlen := hall fs' rfl
              rw [List.length_cons]
              omega

/-- **Blobs are asked for only when they must be.** The sections of a diff are gone through in
order, and each that needs a blob asks for it, once; if the reading comes to its end, all sections
have been gone through. -/
theorem outcomeOf_requests (output : Bytes) :
    (∃ n, (outcomeOf wrap load output).2 =
        ((sections (lines output)).take n).filterMap Section.needed? ∧
      ∀ fs, (outcomeOf wrap load output).1 = .ok fs → (sections (lines output)).length ≤ n) ∧
    ∀ (s : Section) (id : String), s.needed? = some id ↔ s.Needs id := by
  refine ⟨?_, fun s id => Section.needed?_eq_some_iff⟩
  obtain ⟨n, hasked, hall⟩ := outcome_mapM_sections wrap load (sections (lines output))
  refine ⟨n, ?_⟩
  unfold outcomeOf
  rw [changedFiles_eq, map_eq_pure_bind, Asking.outcome_bind _ fun fs => Asking.framed_pure _,
    readings]
  cases ho : (((sections (lines output)).map Section.entry?).mapM
      (fileOf (Asking.exit wrap).fail (ask load))).outcome with
  | mk o ids =>
    rw [ho] at hasked hall
    cases o with
    | error e =>
      refine ⟨hasked, ?_⟩
      rintro fs ⟨⟩
    | ok fs =>
      have hids : (andThen (Except.ok fs, ids) fun fs =>
          Asking.outcome (ε := ε) (pure (fs.filterMap id))).2 = ids := List.append_nil ids
      exact ⟨hids.trans hasked, fun _ _ => hall fs rfl⟩

end Requests

end HouseRules.Diff
