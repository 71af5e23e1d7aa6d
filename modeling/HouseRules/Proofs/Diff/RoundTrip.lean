import HouseRules.Proofs.Diff.Body
import HouseRules.Proofs.Diff.Names
import HouseRules.Proofs.Diff.Sections

/-! # Reading undoes writing

Printed patches are read as what they were printed from (`outcomeOf_write`): one file for each
patch, with the lines that the patch adds, and the blobs asked for are those of which lines are
added.

A section is read line by line. What is known before the hunks comes from the lines on modes and
blobs (`foldlM_header`), and within the hunks the reader counts: the number of the next added line
is the number that the hunk gives, raised by the added lines behind it (`foldlM_hunkLines`). -/

namespace HouseRules.Diff

theorem foldlM_readLine_cons {q q' : Progress} {line : Bytes} (h : readLine q line = .ok q')
    (ls : List Bytes) : (line :: ls).foldlM readLine q = ls.foldlM readLine q' := by
  rw [List.foldlM_cons, h]
  rfl

theorem foldlM_readLine_append {q q' : Progress} {ls : List Bytes}
    (h : ls.foldlM readLine q = .ok q') (ls' : List Bytes) :
    (ls ++ ls').foldlM readLine q = ls'.foldlM readLine q' := by
  rw [List.foldlM_append, h]
  rfl

/-! ### Lines on modes and blobs -/

theorem blobName?_digits (h : Hash) :
    blobName? h.digits = if h.isZero then none else some h.name := rfl

/-- **What the lines before the hunks say.** -/
theorem foldlM_header {q : Progress} (hq : q.inHunk = false) (hb : q.blob = none)
    (hg : q.gitlink = false) (h : Header) :
    h.text.foldlM readLine q =
      .ok { q with blob := h.newHash?.map Hash.name, gitlink := h.isGitlink } := by
  have hnone : (none == some gitlinkMode) = false := rfl
  cases h with
  | kept old new isBlob mode =>
    rw [Header.text, foldlM_readLine_cons (readLine_index hq old new mode), blobName?_digits,
      isBlob,
      hg]
    rfl
  | modeOnly oldMode newMode =>
    rw [Header.text, foldlM_readLine_cons
        (readLine_unknown hq (head?_ofAscii_append (x := 0x6F) (by decide) _) (by decide)),
      foldlM_readLine_cons
        (readLine_newMode hq (head?_ofAscii_append (by decide) _) (newMode?_new newMode)), hb]
    rfl
  | modeChanged oldMode newMode old new isBlob =>
    rw [Header.text, foldlM_readLine_cons
        (readLine_unknown hq (head?_ofAscii_append (x := 0x6F) (by decide) _) (by decide)),
      foldlM_readLine_cons
        (readLine_newMode hq (head?_ofAscii_append (by decide) _) (newMode?_new newMode)),
      foldlM_readLine_cons
        (readLine_index (p := { q with gitlink := newMode.digits == gitlinkMode }) hq old new none),
      blobName?_digits, isBlob, Option.map_none, hnone, Bool.or_false]
    rfl
  | created mode old new isBlob =>
    rw [Header.text, foldlM_readLine_cons
        (readLine_newMode hq (head?_ofAscii_append (by decide) _) (newMode?_newFile mode)),
      foldlM_readLine_cons
        (readLine_index (p := { q with gitlink := mode.digits == gitlinkMode }) hq old new none),
      blobName?_digits, isBlob, Option.map_none, hnone, Bool.or_false]
    rfl
  | deleted mode old new noBlob =>
    rw [Header.text, foldlM_readLine_cons
        (readLine_unknown hq (head?_ofAscii_append (x := 0x64) (by decide) _) (by decide)),
      foldlM_readLine_cons (readLine_index hq old new none), blobName?_digits, noBlob, hg]
    rfl

/-! ### Hunks -/

/-- The numbers of the added lines of a hunk. -/
def Hunk.numbers (h : Hunk) : List Nat := List.range' h.newStart h.added.length

/-- Within a hunk, each added line gets the next number. -/
theorem foldlM_hunkLines : ∀ (ls : List HunkLine) {q : Progress}, q.inHunk = true →
    (ls.map HunkLine.text).foldlM readLine q = .ok { q with
      added := (List.range' q.next (ls.filterMap HunkLine.added?).length).reverse ++ q.added
      next := q.next + (ls.filterMap HunkLine.added?).length }
  | [], q, _ => rfl
  | l :: ls, q, hq => by
    have hl := readLine_hunkLine hq l
    cases ha : l.added? with
    | none =>
      rw [ha] at hl
      rw [List.map_cons, foldlM_readLine_cons hl, List.filterMap_cons_none ha]
      exact foldlM_hunkLines ls hq
    | some t =>
      rw [ha] at hl
      rw [List.map_cons, foldlM_readLine_cons hl, List.filterMap_cons_some ha,
        foldlM_hunkLines ls (q := { q with added := q.next :: q.added, next := q.next + 1 }) hq,
        List.length_cons, List.range'_succ, List.reverse_cons, List.append_assoc,
        List.singleton_append,
        Nat.add_assoc q.next 1, Nat.add_comm 1]

/-- **The hunks give the added lines their numbers**, and leave all else that is known alone. -/
theorem foldlM_hunks : ∀ (hs : List Hunk) (q : Progress),
    ∃ next inHunk, (hs.flatMap Hunk.text).foldlM readLine q = .ok { q with
      added := (hs.flatMap Hunk.numbers).reverse ++ q.added, next, inHunk }
  | [], q => ⟨q.next, q.inHunk, rfl⟩
  | h :: hs, q => by
    have hhead := readLine_head q h
    have hlines := foldlM_hunkLines h.lines (q := { q with inHunk := true, next := h.newStart }) rfl
    obtain ⟨next, inHunk, hrest⟩ := foldlM_hunks hs { q with
      inHunk := true, next := h.newStart + h.added.length
      added := h.numbers.reverse ++ q.added }
    refine ⟨next, inHunk, ?_⟩
    rw [List.flatMap_cons, Hunk.text, List.cons_append, foldlM_readLine_cons hhead,
      foldlM_readLine_append hlines]
    refine hrest.trans ?_
    rw [List.flatMap_cons, List.reverse_append, List.append_assoc]

/-! ### A section -/

namespace FilePatch

/-- What a patch says of its file. -/
def entry (p : FilePatch) : Entry where
  path := Utf8.decodeLossy p.readPath
  blob := p.newBlob?.map Hash.name
  added := p.added.map (·.1)

theorem map_fst_added (p : FilePatch) :
    p.added.map (·.1) = p.content.toHunks.flatMap Hunk.numbers := by
  rw [added, List.map_flatMap]
  refine List.flatMap_congr fun h _ => ?_
  rw [List.map_map, Hunk.numbers, List.range'_eq_map_range, List.range_eq_range',
    ← List.zipIdx_map_snd 0 h.added, List.map_map]
  rfl

/-- What follows the lines on modes and blobs gives the path, if the title is not to give it, and
the added lines. -/
theorem foldlM_contentText (p : FilePatch) {q : Progress} (hq : q.inHunk = false)
    (hpath : q.path = Utf8.decodeLossy p.titlePath) (hadded : q.added = []) :
    ∃ q', p.contentText.foldlM readLine q = .ok q' ∧ q'.path = Utf8.decodeLossy p.readPath ∧
      q'.blob = q.blob ∧ q'.gitlink = q.gitlink ∧ q'.added = (p.added.map (·.1)).reverse := by
  rw [map_fst_added]
  cases hc : p.content with
  | absent =>
    refine ⟨q, by rw [contentText, hc]; rfl, ?_, rfl, rfl, hadded⟩
    rw [hpath, readPath, hc]
  | binary =>
    refine ⟨q, ?_, ?_, rfl, rfl, hadded⟩
    · rw [contentText, hc]
      exact foldlM_readLine_cons
        (readLine_unknown hq (head?_ofAscii_append (x := 0x42) (by decide) _) (by decide)) []
    · rw [hpath, readPath, hc]
  | hunks hs =>
    obtain ⟨next, inHunk, hrun⟩ := foldlM_hunks hs { q with
      oldPath := if p.header.hasOld then some (Utf8.decodeLossy p.path.bytes) else none
      path := Utf8.decodeLossy p.path.bytes }
    have hlines : p.contentText.foldlM readLine q = (hs.flatMap Hunk.text).foldlM readLine { q with
        oldPath := if p.header.hasOld then some (Utf8.decodeLossy p.path.bytes) else none
        path := Utf8.decodeLossy p.path.bytes } := by
      have hnew := readLine_newSide (q := { q with
        oldPath := if p.header.hasOld then some (Utf8.decodeLossy p.path.bytes) else none }) hq p
        p.header.hasNew
      rw [firstNamed_sides] at hnew
      rw [contentText, hc]
      change List.foldlM readLine q (_ :: _ :: _) = _
      rw [foldlM_readLine_cons (readLine_oldSide hq p _), foldlM_readLine_cons hnew]
    refine ⟨_, hlines.trans hrun, ?_, rfl, rfl, ?_⟩
    · rw [readPath, hc]
    · change _ ++ q.added = _
      rw [hadded, List.append_nil]
      rfl

/-- **A printed section is read as its patch.** -/
theorem entry?_section (p : FilePatch) : Section.entry? ⟨p.title, p.body⟩ = .ok (some p.entry) := by
  obtain ⟨q, hrun, hpath, hblob, hgitlink, hadded⟩ := p.foldlM_contentText
    (q := { path := Utf8.decodeLossy p.titlePath, blob := p.header.newHash?.map Hash.name,
            gitlink := p.header.isGitlink }) rfl rfl rfl
  have hbody : p.body.foldlM readLine { path := Utf8.decodeLossy p.titlePath } = .ok q := by
    rw [body, foldlM_readLine_append (foldlM_header rfl rfl rfl p.header)]
    exact hrun
  have hentry : q.entry = p.entry := by
    rw [Progress.entry, hpath, hblob, hgitlink, hadded, List.reverse_reverse]
    rw [entry, newBlob?]
    cases p.header.isGitlink <;> rfl
  rw [Section.entry?, titlePath?_title]
  change (do
    let q ← p.body.foldlM readLine { path := Utf8.decodeLossy p.titlePath }
    return some q.entry) = _
  rw [hbody, ← hentry]
  rfl

end FilePatch

/-! ### All sections -/

theorem foldr_cutStep_body : ∀ {ls : List Bytes}, (∀ l ∈ ls, isTitle l = false) →
    ls.foldr cutStep ([], []) = (ls, [])
  | [], _ => rfl
  | l :: ls, h => by
    have hl : isTitle l = false := h l List.mem_cons_self
    rw [List.foldr_cons, foldr_cutStep_body fun l' hl' => h l' (List.mem_cons_of_mem l hl'),
      cutStep_of_not_title (by rw [hl]; decide)]

theorem readings_text (p : FilePatch) : readings p.text = [.ok (some p.entry)] := by
  have hlines : lines p.text = (p.title :: p.body) ++ [[]] := by
    have hsingle : ∀ l ∈ p.title :: p.body, Bytes.newline ∉ l := by
      intro l hl
      rcases List.mem_cons.mp hl with rfl | hl
      · exact p.newline_not_mem_title
      · exact (p.isBody_body l hl).1
    have h := Search.pieces_flatMap_append [] hsingle
    rwa [List.append_nil] at h
  have hbody := foldr_cutStep_body fun l hl => (p.isBody_body l hl).2
  rw [readings, hlines, entries_append_nil, sections_cons p.isTitle_title, hbody, List.map_cons,
    p.entry?_section]
  rfl

theorem title_prefix_text (p : FilePatch) : Bytes.ofAscii "diff --git" <+: p.text := by
  obtain ⟨t, ht⟩ := List.isPrefixOf_iff_prefix.mp p.isTitle_title
  refine ⟨t ++ [Bytes.newline] ++ p.body.flatMap (· ++ [Bytes.newline]), ?_⟩
  rw [← List.append_assoc, ← List.append_assoc, ht]
  rfl

theorem getLast?_text (p : FilePatch) : p.text.getLast? = some Bytes.newline := by
  obtain ⟨ls, l, hl⟩ := (List.eq_nil_or_concat (p.title :: p.body)).resolve_left (by simp)
  rw [FilePatch.text, hl, List.concat_eq_append, List.flatMap_append, List.flatMap_singleton,
    ← List.append_assoc, List.getLast?_concat]

/-- **Printed patches are read as the patches**, section by section. -/
theorem readings_write : ∀ ps : List FilePatch,
    readings (write ps) = ps.map fun p => .ok (some p.entry)
  | [] => rfl
  | [p] => by
    rw [write, List.flatMap_singleton, readings_text]
    rfl
  | p :: p' :: ps => by
    have hb : Bytes.ofAscii "diff --git" <+: write (p' :: ps) :=
      (title_prefix_text p').trans (List.prefix_append _ _)
    have h := readings_append (Or.inr (getLast?_text p)) hb
    rw [readings_text, readings_write (p' :: ps)] at h
    rw [write, List.flatMap_cons]
    exact h

/-- Reading printed patches is to read the blob of each patch, one after the other. -/
theorem changedFiles_write_eq {m : Type → Type} [Monad m] [LawfulMonad m]
    (exit : Exit m) (load : String → m Bytes) (ps : List FilePatch) :
    changedFiles exit load (write ps) = ps.mapM fun p => p.entry.resolve load := by
  have hfile : ∀ p : FilePatch, fileOf exit.fail load (.ok (some p.entry)) =
      some <$> p.entry.resolve load := fun p => pure_bind _ _
  have hmap : ∀ ps : List FilePatch,
      (·.filterMap id) <$> ps.mapM (fun p => some <$> p.entry.resolve load) =
        ps.mapM fun p => p.entry.resolve load := by
    intro ps
    induction ps with
    | nil => simp
    | cons p ps ih =>
      rw [List.mapM_cons, List.mapM_cons, ← ih]
      simp only [map_eq_pure_bind, bind_assoc, pure_bind]
      rfl
  rw [changedFiles_eq, readings_write, List.mapM_map]
  exact (congrArg _ (congrArg (List.mapM · ps) (funext hfile))).trans (hmap ps)

/-! ### Added lines in their blob -/

namespace FilePatch

/-- The line of an added text is the text with its ending. -/
theorem getElem?_cutLines {blob text : Bytes} {n : Nat} (hn : Bytes.newline ∉ text)
    (h : IsLine blob n text) :
    (Bytes.cutLines blob)[n - 1]? = some (text ++ ending blob n text) := by
  obtain ⟨-, h | h⟩ := h
  · obtain ⟨front, hb, hf⟩ := Bytes.eq_append_of_getElem? h
    have hlen := congrArg List.length hb
    rw [List.length_append, List.length_append, List.length_append, hf,
      List.length_singleton] at hlen
    rw [ending, if_pos (by omega), h]
  · obtain ⟨front, hb, hf⟩ := Bytes.eq_append_of_getElem? h
    -- A line without a line feed is the last.
    have hlast : (Bytes.cutLines blob)[n - 1 + 1]? = none := by
      cases hm : (Bytes.cutLines blob)[n - 1 + 1]? with
      | none => rfl
      | some m => exact absurd (List.mem_of_getLast? (Bytes.getLast?_of_getElem?_succ h hm)) hn
    have hlen := congrArg List.length hb
    rw [List.drop_eq_nil_of_le (List.getElem?_eq_none_iff.mp hlast), List.length_append,
      List.length_append, hf, List.flatten_nil, List.length_nil] at hlen
    rw [ending, if_neg (by omega), List.append_nil, h]

theorem lineRange?_of_isLine {blob text : Bytes} {n : Nat} (hn : Bytes.newline ∉ text)
    (h : IsLine blob n text) (id : String) :
    (lineRange? (Bytes.lineStarts blob) blob.length (n : Int)).map
      (fun (start, stop) => changeAt id blob start stop) = some (addedChange id blob n text) := by
  have hline := getElem?_cutLines hn h
  obtain ⟨k, rfl⟩ : ∃ k, n = k + 1 := ⟨n - 1, by have := h.1; omega⟩
  rw [Nat.add_sub_cancel] at hline
  rw [lineRange?_lineStarts, hline, Option.map_some, Option.map_some]
  change some (changeAt id blob _ _) = _
  rw [changeAt, ← Bytes.slice_natCast, Bytes.slice_line_self hline]
  rfl

theorem mem_added {p : FilePatch} {n : Nat} {text : Bytes} (h : (n, text) ∈ p.added) :
    Bytes.newline ∉ text := by
  obtain ⟨k, -, hk⟩ := List.mem_flatMap.mp h
  obtain ⟨⟨t, i⟩, ht, he⟩ := List.mem_map.mp hk
  cases he
  obtain ⟨l, -, hl⟩ := List.mem_filterMap.mp (List.fst_mem_of_mem_zipIdx ht)
  cases l with
  | added t =>
    cases hl
    exact t.single
  | removed t => cases hl
  | note t => cases hl

theorem exists_hunks_of_mem_added {p : FilePatch} {q : Nat × Bytes} (h : q ∈ p.added) :
    ∃ hs, p.content = .hunks hs := by
  unfold added at h
  cases hc : p.content with
  | hunks hs => exact ⟨hs, rfl⟩
  | absent => rw [hc] at h; cases h
  | binary => rw [hc] at h; cases h

/-- The blob that is read gives the added lines. -/
theorem file_entry {p : FilePatch} {blobs : String → Bytes} (hfits : p.Fits blobs) {h : Hash}
    (hh : p.newBlob? = some h) :
    p.entry.file (some (h.name, blobs h.name)) = p.changedFile blobs := by
  have hchanges : changesForLines h.name (blobs h.name) (p.entry.added.map Int.ofNat) =
      p.changes blobs := by
    rw [changes, hh, changesForLines, entry, List.map_map, List.filterMap_map]
    refine (List.filterMap_congr fun q hq => ?_).trans (congrFun List.filterMap_eq_map p.added)
    exact lineRange?_of_isLine (mem_added hq) (hfits h hh q.1 q.2 hq) h.name
  rw [Entry.file]
  simp only [hchanges]
  rfl

theorem wanted?_entry (p : FilePatch) : p.entry.wanted? = p.neededBlob?.map Hash.name := by
  rw [Entry.wanted?, entry, neededBlob?]
  by_cases h : p.added = []
  · rw [if_pos h, h]
    rfl
  · rw [if_neg h, if_neg (by simpa using h)]

theorem newBlob?_of_needed {p : FilePatch} {h : Hash} (hh : p.neededBlob? = some h) :
    p.newBlob? = some h := by
  unfold neededBlob? at hh
  split_ifs at hh
  exact hh

/-- A patch that needs no blob adds no lines. -/
theorem resolve_none {m : Type → Type} [Monad m] {p : FilePatch} (hn : p.neededBlob? = none)
    (load : String → m Bytes) (blobs : String → Bytes) :
    p.entry.resolve load = pure (p.changedFile blobs) := by
  have hchanges : p.changes blobs = [] := by
    unfold neededBlob? at hn
    unfold changes
    split_ifs at hn with h
    · rw [h]
      cases p.newBlob? <;> rfl
    · rw [hn]
  rw [Entry.resolve, wanted?_entry, hn]
  change pure (p.entry.file none) = _
  rw [changedFile, hchanges]
  rfl

theorem resolve_some {m : Type → Type} [Monad m] {p : FilePatch} {h : Hash}
    (hh : p.neededBlob? = some h) (load : String → m Bytes) :
    p.entry.resolve load = do return p.entry.file (some (h.name, ← load h.name)) := by
  rw [Entry.resolve, wanted?_entry, hh]
  rfl

end FilePatch

/-! ### Reading undoes writing -/

theorem Asking.outcome_mapM {ε α β : Type} {f : α → Asking ε β} {g : α → β} {ids : α → List String}
    (hf : ∀ a, (f a).Framed) : ∀ {l : List α}, (∀ a ∈ l, (f a).outcome = (.ok (g a), ids a)) →
      (l.mapM f).outcome = (.ok (l.map g), l.flatMap ids)
  | [], _ => rfl
  | a :: l, h => by
    have ih := Asking.outcome_mapM hf fun b hb => h b (List.mem_cons_of_mem a hb)
    have hrest : ∀ b, (l.mapM f >>= fun bs => pure (b :: bs)).Framed := fun b =>
      (Asking.Framed.mapM hf l).bind fun bs => Asking.framed_pure (b :: bs)
    rw [List.mapM_cons, Asking.outcome_bind _ hrest, h a List.mem_cons_self]
    simp only [andThen]
    rw [Asking.outcome_bind _ fun bs => Asking.framed_pure (g a :: bs), ih]
    simp only [andThen]
    rw [List.flatMap_cons]
    exact congrArg (Prod.mk _) (congrArg _ (List.append_nil _))

theorem FilePatch.outcome_resolve {ε : Type} {load : String → Except ε Bytes}
    {blobs : String → Bytes} {p : FilePatch} (hfits : p.Fits blobs)
    (hload : ∀ h, p.neededBlob? = some h → load h.name = .ok (blobs h.name)) :
    (p.entry.resolve (ask load)).outcome =
      (.ok (p.changedFile blobs), (p.neededBlob?.map Hash.name).toList) := by
  cases hn : p.neededBlob? with
  | none =>
    rw [resolve_none hn _ blobs]
    rfl
  | some h =>
    rw [resolve_some hn, Asking.outcome_bind _ fun bytes => Asking.framed_pure _,
      outcome_ask (hload h hn)]
    simp only [andThen]
    rw [file_entry hfits (newBlob?_of_needed hn)]
    rfl

/-- The path that is read is the path of the file, if lines for the two sides are printed, or the
names are quoted, or the path holds no ` b/`. -/
theorem FilePatch.readPath_eq {p : FilePatch} (h : (∃ hs, p.content = .hunks hs) ∨
    p.needsQuotes = true ∨ Search.occurs (Bytes.ofAscii " b/") p.path.bytes = false) :
    p.readPath = p.path.bytes := by
  have htitle : p.needsQuotes = true ∨ Search.occurs (Bytes.ofAscii " b/") p.path.bytes = false →
      p.titlePath = p.path.bytes := by
    rintro (h | h)
    · rw [titlePath, if_pos h]
    · rw [titlePath, afterLastMark_of_not_occurs h, ite_self]
  unfold readPath
  rcases h with ⟨hs, h⟩ | h
  · rw [h]
  · cases p.content with
    | hunks hs => rfl
    | absent => exact htitle h
    | binary => exact htitle h

/-- **Reading undoes writing.** Of patches whose added lines stand in their new blobs, printed one
after the other, the files are read: for each patch its path, and for each line that it adds the
line itself and its range in the blob. Exactly the blobs that lines are added to are asked for, in
the order of the patches.

The path is that of the file, unless the patch shows no lines and the title alone has to tell an
unquoted path that holds ` b/`. -/
theorem outcomeOf_write {ε : Type} (wrap : PathError → ε) (load : String → Except ε Bytes)
    (blobs : String → Bytes) (ps : List FilePatch) (hfits : ∀ p ∈ ps, p.Fits blobs)
    (hload : ∀ p ∈ ps, ∀ h, p.neededBlob? = some h → load h.name = .ok (blobs h.name)) :
    outcomeOf wrap load (write ps) =
      (.ok (ps.map fun p => ⟨Utf8.decodeLossy p.readPath, p.changes blobs⟩),
        ps.flatMap fun p => (p.neededBlob?.map Hash.name).toList) ∧
    ∀ p ∈ ps, (∃ hs, p.content = .hunks hs) ∨ p.needsQuotes = true ∨
      Search.occurs (Bytes.ofAscii " b/") p.path.bytes = false → p.readPath = p.path.bytes := by
  refine ⟨?_, fun p _ h => FilePatch.readPath_eq h⟩
  rw [outcomeOf, changedFiles_write_eq]
  exact Asking.outcome_mapM (fun p : FilePatch => framed_resolve load p.entry) fun p hp =>
    FilePatch.outcome_resolve (hfits p hp) (hload p hp)

/-- A new file, with a line that is printed like a header and no line feed at its end. -/
def newFile : FilePatch where
  path := { bytes := Bytes.ofAscii "a b/\"c" }
  header := .created .plain .zero { digits := Bytes.ofAscii "1f" } (by decide)
  content := .hunks [{
    oldStart := 0, oldCount := some 0, newStart := 1, newCount := some 2
    heading := .empty
    lines := [.added { bytes := Bytes.ofAscii "++ x" }, .added { bytes := Bytes.ofAscii "y" },
      .noNewline] }]
  modeOnly := nofun

/-- The new file in print, and what is read of it. -/
theorem outcomeOf_write_newFile :
    newFile.Fits (fun _ => Bytes.ofAscii "++ x\ny") ∧
      outcomeOf id (fun _ => .ok (Bytes.ofAscii "++ x\ny"))
          (Bytes.ofAscii ("diff --git \"a/a b/\\\"c\" \"b/a b/\\\"c\"\nnew file mode 100644\n" ++
            "index 00..1f\n--- /dev/null\n+++ \"b/a b/\\\"c\"\t\n@@ -0,0 +1,2 @@\n+++ x\n+y\n" ++
            "\\ No newline at end of file\n")) =
        (.ok [⟨"a b/\"c", [⟨"++ x\n", ⟨0, 5⟩, "1f"⟩, ⟨"y", ⟨5, 6⟩, "1f"⟩]⟩], ["1f"]) := by
  have hadded : newFile.added = [(1, Bytes.ofAscii "++ x"), (2, Bytes.ofAscii "y")] := by decide
  have hfits : newFile.Fits fun _ => Bytes.ofAscii "++ x\ny" := by
    intro h _ n text hm
    rw [hadded] at hm
    rcases List.mem_cons.mp hm with hm | hm
    · cases hm
      exact ⟨by decide, Or.inl rfl⟩
    · cases List.mem_singleton.mp hm
      exact ⟨by decide, Or.inr rfl⟩
  refine ⟨hfits, ?_⟩
  have h := outcomeOf_write id (fun _ => .ok (Bytes.ofAscii "++ x\ny")) _ [newFile]
    (List.forall_mem_singleton.mpr hfits) fun _ _ _ _ => rfl
  refine Eq.trans (congrArg _ ?_) (h.1.trans ?_)
  · decide +kernel
  · decide +kernel

/-- A change of a mode. -/
def modeChange : FilePatch where
  path := { bytes := Bytes.ofAscii "x b/y" }
  header := .modeOnly .plain { digits := Bytes.ofAscii "100755" }
  content := .absent
  modeOnly := fun _ _ _ => rfl

/-- The title of the change of mode can be cut in two ways, and the path read is not that of the
file. -/
theorem outcomeOf_write_modeChange :
    outcomeOf id (fun _ => .ok []) (write [modeChange]) = (.ok [⟨"y", []⟩], []) ∧
      Utf8.decodeLossy modeChange.path.bytes = "x b/y" := by
  decide +kernel

end HouseRules.Diff
