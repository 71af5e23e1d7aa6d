import HouseRules.Diff.Scan
import HouseRules.Proofs.Text.Search
import Mathlib.Data.List.Basic

/-! # The scan of a diff reads its sections one by one

The scan goes over the lines of a diff once and holds the same variables from its first line to its
last. It reads what the sections of the diff say, each on its own (`changedFiles_eq`): the lines of
a section are read from what its title sets (`foldlM_line_of_path`), lines below a title without a
path are passed over (`foldlM_line_of_path_none`), and the number of the next added line, which no
title sets, is not used before a hunk sets it (`foldlM_readLine_next`). -/

namespace HouseRules.Diff

/-! ### Cutting lines into sections -/

theorem cutStep_of_title {line : Bytes} (h : isTitle line = true)
    (acc : List Bytes × List Section) :
    cutStep line acc = ([], ⟨line, acc.1⟩ :: acc.2) := if_pos h

theorem cutStep_of_not_title {line : Bytes} (h : ¬ isTitle line = true)
    (acc : List Bytes × List Section) : cutStep line acc = (line :: acc.1, acc.2) := if_neg h

/-- The lines of a section. -/
def Section.lines (s : Section) : List Bytes := s.title :: s.body

/-- A section as it is cut out: its first line is its only title. -/
structure Section.Cut (s : Section) : Prop where
  /-- The first line is a title. -/
  title : isTitle s.title = true
  /-- The others are not. -/
  body : ∀ l ∈ s.body, ¬ isTitle l = true

/-- Lines are cut into those in front of the first section and those of the sections. -/
theorem foldr_cutStep_cut : ∀ ls : List Bytes,
    ls = (ls.foldr cutStep ([], [])).1 ++ (sections ls).flatMap Section.lines ∧
      (∀ l ∈ (ls.foldr cutStep ([], [])).1, ¬ isTitle l = true) ∧ ∀ s ∈ sections ls, s.Cut
  | [] => ⟨rfl, by simp, by simp [sections]⟩
  | l :: ls => by
    obtain ⟨hls, hpre, hsecs⟩ := foldr_cutStep_cut ls
    unfold sections at hls hsecs ⊢
    rw [List.foldr_cons]
    by_cases h : isTitle l = true
    · rw [cutStep_of_title h]
      refine ⟨?_, by simp, List.forall_mem_cons.mpr ⟨⟨h, hpre⟩, hsecs⟩⟩
      rw [List.nil_append, List.flatMap_cons, Section.lines, List.cons_append, ← hls]
    · rw [cutStep_of_not_title h]
      refine ⟨?_, List.forall_mem_cons.mpr ⟨h, hpre⟩, hsecs⟩
      rw [List.cons_append, ← hls]

theorem sections_eq_nil {ls : List Bytes} (h : ∀ l ∈ ls, ¬ isTitle l = true) :
    sections ls = [] := by
  rw [List.eq_nil_iff_forall_not_mem]
  intro s hs
  obtain ⟨hls, -, hcut⟩ := foldr_cutStep_cut ls
  refine h s.title ?_ (hcut s hs).title
  rw [hls]
  exact List.mem_append_right _ (List.mem_flatMap.mpr ⟨s, hs, List.mem_cons_self⟩)

/-! ### The number of the next added line -/

theorem readHeader_next (p : Progress) (n : Nat) (line : Bytes) :
    readHeader { p with next := n } line = ({ · with next := n }) <$> readHeader p line := by
  unfold readHeader
  split_ifs
  · cases headerPath? line (Bytes.ofAscii "a/") <;> rfl
  · cases headerPath? line (Bytes.ofAscii "b/") <;> rfl
  · cases newMode? line with
    | some mode => rfl
    | none => cases indexLine? line <;> rfl

theorem inHunk_of_readHeader {p q : Progress} {line : Bytes} (h : readHeader p line = .ok q) :
    q.inHunk = p.inHunk := by
  unfold readHeader at h
  split_ifs at h
  · cases hpath : headerPath? line (Bytes.ofAscii "a/") with
    | error e => rw [hpath] at h; cases h
    | ok path => rw [hpath] at h; cases h; rfl
  · cases hpath : headerPath? line (Bytes.ofAscii "b/") with
    | error e => rw [hpath] at h; cases h
    | ok path => rw [hpath] at h; cases h; rfl
  · split at h
    · cases h; rfl
    · split at h <;> · cases h; rfl

theorem readLine_hunk {line : Bytes} {n : Nat} (h : hunkStart? line = some n) (p : Progress) :
    readLine p line = .ok { p with inHunk := true, next := n } := by
  rw [readLine, h]

theorem readLine_header {p : Progress} {line : Bytes} (h : hunkStart? line = none)
    (hp : p.inHunk = false) : readLine p line = readHeader p line := by
  rw [readLine, h, hp]
  rfl

/-- Outside a hunk the number of the next added line has no effect. -/
theorem foldlM_readLine_next (n : Nat) : ∀ (body : List Bytes) (p : Progress), p.inHunk = false →
    Progress.entry <$> body.foldlM readLine { p with next := n } =
      Progress.entry <$> body.foldlM readLine p
  | [], _, _ => rfl
  | l :: body, p, hp => by
    rw [List.foldlM_cons, List.foldlM_cons]
    cases hl : hunkStart? l with
    -- a hunk sets the number
    | some k => rw [readLine_hunk hl, readLine_hunk hl]
    | none =>
      rw [readLine_header hl hp, readLine_header (p := { p with next := n }) hl hp,
        readHeader_next p n]
      cases hq : readHeader p l with
      | error e => rfl
      | ok q => exact foldlM_readLine_next n body q ((inHunk_of_readHeader hq).trans hp)

/-- What is read of a section when the number of the next added line is `n` before it. -/
def Section.read (s : Section) (n : Nat) : Except PathError (Option Progress) := do
  match ← titlePath? s.title with
  | none => return none
  | some path => some <$> s.body.foldlM readLine { path, next := n }

theorem Section.map_entry_read (s : Section) (n : Nat) :
    Option.map Progress.entry <$> s.read n = s.entry? := by
  unfold Section.read Section.entry?
  rcases titlePath? s.title with e | _ | path
  · rfl
  · rfl
  · have hnext : Progress.entry <$> s.body.foldlM readLine { path, next := n } =
        Progress.entry <$> s.body.foldlM readLine { path } :=
      foldlM_readLine_next n s.body { path } rfl
    calc Option.map Progress.entry <$> some <$> s.body.foldlM readLine { path, next := n }
        = some <$> Progress.entry <$> s.body.foldlM readLine { path, next := n } := by
          rw [← comp_map, ← comp_map]
          rfl
      _ = _ := by
          rw [hnext]
          simp only [map_eq_pure_bind, bind_assoc, pure_bind]
          rfl

/-! ### What a diff says -/

/-- What the sections of a diff say of their files. -/
def readings (output : Bytes) : List (Except PathError (Option Entry)) :=
  (sections (lines output)).map Section.entry?

section Monads

variable {m : Type → Type} [Monad m]

/-- The changed file of an entry, if there is one. -/
def resolve? (load : String → m Bytes) : Option Entry → m (Option ChangedFile)
  | none => pure none
  | some e => some <$> e.resolve load

/-- The changed file of a section that has been read. -/
def fileOf (fail : PathError → m (Option Entry)) (load : String → m Bytes)
    (reading : Except PathError (Option Entry)) : m (Option ChangedFile) := do
  let entry ← match reading with
    | .ok e => pure e
    | .error e => fail e
  resolve? load entry

/-- The scan behind a section, all but its file. -/
def Scan.behind (st : Scan) : Option Progress → Scan
  | none => st.restart none
  | some p => st.withProgress p

variable [LawfulMonad m] (exit : Exit m) (load : String → m Bytes)

theorem Exit.orFail_bind {α β : Type} (x : Except PathError α) (f : α → Except PathError β) :
    exit.orFail (x >>= f) = exit.orFail x >>= fun a => exit.orFail (f a) := by
  cases x with
  | ok a => exact (pure_bind a (fun a => exit.orFail (f a))).symm
  | error e => exact (exit.fail_bind e _).symm

/-- Lines of no file are passed over. -/
theorem foldlM_line_of_path_none {st : Scan} (h : st.path = none) : ∀ {ls : List Bytes},
    (∀ l ∈ ls, ¬ isTitle l = true) → ls.foldlM (Scan.line exit load) st = pure st
  | [], _ => rfl
  | l :: ls, hls => by
    obtain ⟨hl, hls⟩ := List.forall_mem_cons.mp hls
    have hline : Scan.line exit load st l = pure st := by
      unfold Scan.line
      rw [if_neg hl, h]
    rw [List.foldlM_cons, hline, pure_bind]
    exact foldlM_line_of_path_none h hls

/-- The lines of a file are read one after the other, and nothing else changes. -/
theorem foldlM_line_of_path : ∀ {ls : List Bytes} {st : Scan} {path : String},
    st.path = some path → (∀ l ∈ ls, ¬ isTitle l = true) →
    ls.foldlM (Scan.line exit load) st =
      st.withProgress <$> exit.orFail (ls.foldlM readLine (st.progress path))
  | [], st, path, h, _ => by
    have hst : st.withProgress (st.progress path) = st := by
      unfold Scan.withProgress Scan.progress
      rw [← h]
    exact (congrArg pure hst.symm).trans (map_pure _ _).symm
  | l :: ls, st, path, h, hls => by
    obtain ⟨hl, hls⟩ := List.forall_mem_cons.mp hls
    rw [List.foldlM_cons, List.foldlM_cons, Exit.orFail_bind, map_bind]
    unfold Scan.line
    rw [if_neg hl, h]
    simp only [bind_assoc, pure_bind]
    refine bind_congr fun p => ?_
    have hpath : (st.withProgress p).path = some p.path := rfl
    exact foldlM_line_of_path hpath hls

/-- The lines of a section end the file before it, and are then read as on their own, but for the
number of the next added line. -/
theorem foldlM_line_lines {s : Section} (hs : s.Cut) (st : Scan) :
    s.lines.foldlM (Scan.line exit load) st = do
      let st ← st.flush load
      return st.behind (← exit.orFail (s.read st.next)) := by
  obtain ⟨htitle, hbody⟩ := hs
  rw [Section.lines, List.foldlM_cons, Scan.line, if_pos htitle]
  simp only [bind_assoc, pure_bind]
  refine bind_congr fun st => ?_
  unfold Section.read
  rw [Exit.orFail_bind, bind_assoc]
  refine bind_congr fun path? => ?_
  cases path? with
  | none =>
    rw [foldlM_line_of_path_none exit load rfl hbody]
    exact (pure_bind (none : Option Progress) fun p? => pure (st.behind p?)).symm
  | some path =>
    rw [foldlM_line_of_path exit load rfl hbody]
    change _ <$> exit.orFail (s.body.foldlM readLine { path, next := st.next }) =
      exit.orFail (some <$> s.body.foldlM readLine { path, next := st.next }) >>= _
    cases s.body.foldlM readLine { path, next := st.next } with
    | ok p => exact (map_pure _ p).trans (pure_bind (some p) fun p? => pure (st.behind p?)).symm
    | error e => rw [map_eq_pure_bind]; exact (exit.fail_bind e _).trans (exit.fail_bind e _).symm

theorem flush_behind (st : Scan) (p? : Option Progress) :
    Scan.files <$> (st.behind p?).flush load =
      (st.files ++ ·.toList) <$> resolve? load (p?.map Progress.entry) := by
  cases p? with
  | none => simp [Scan.behind, Scan.restart, Scan.flush, resolve?]
  | some p =>
    simp [Scan.behind, Scan.withProgress, Scan.progress, Scan.flush, resolve?]

/-- The file of a section, from what is read of it with any number of the next added line. -/
theorem fileOf_eq_bind (s : Section) (n : Nat) :
    fileOf exit.fail load s.entry? =
      exit.orFail (s.read n) >>= fun p? => resolve? load (p?.map Progress.entry) := by
  rw [← s.map_entry_read n]
  unfold fileOf
  cases s.read n with
  | error e => exact (exit.fail_bind e _).trans (exit.fail_bind e _).symm
  | ok p? =>
    rw [Exit.orFail, pure_bind]
    exact pure_bind (p?.map Progress.entry) _

/-- The sections behind what has been scanned: the file before them is ended, and each gives the
file that it gives on its own. -/
theorem foldlM_line_sections : ∀ {secs : List Section}, (∀ s ∈ secs, s.Cut) → ∀ st : Scan,
    ((secs.flatMap Section.lines).foldlM (Scan.line exit load) st >>= fun st =>
      Scan.files <$> st.flush load) = do
        let files ← Scan.files <$> st.flush load
        let found ← secs.mapM fun s => fileOf exit.fail load s.entry?
        return files ++ found.filterMap id
  | [], _, st => by simp
  | s :: secs, hsecs, st => by
    obtain ⟨hs, hsecs⟩ := List.forall_mem_cons.mp hsecs
    rw [List.flatMap_cons, List.foldlM_append, foldlM_line_lines exit load hs, List.mapM_cons]
    simp only [bind_assoc, pure_bind, foldlM_line_sections hsecs]
    rw [bind_map_left]
    refine bind_congr fun st => ?_
    rw [fileOf_eq_bind exit load s st.next, bind_assoc]
    refine bind_congr fun p? => ?_
    rw [flush_behind, bind_map_left]
    refine bind_congr fun file? => bind_congr fun found => ?_
    cases file? <;> simp

/-! ### The scan and the sections -/

/-- An output of blanks only has no title. -/
theorem sections_lines_of_blank {output : Bytes} (h : output.all Bytes.isBlank = true) :
    sections (lines output) = [] := by
  refine sections_eq_nil fun l hl htitle => ?_
  obtain ⟨rest, rfl⟩ := List.isPrefixOf_iff_prefix.mp htitle
  have hd : (0x64 : UInt8) ∈ Bytes.ofAscii "diff --git" := by decide
  have hmem : (0x64 : UInt8) ∈ output :=
    (Search.mem_of_mem_pieces hl (List.mem_append_left rest hd)).1
  exact absurd (List.all_eq_true.mp h _ hmem) (by decide)

/-- **The scan gives what the sections say**, each read on its own. -/
theorem changedFiles_eq (output : Bytes) :
    changedFiles exit load output =
      (·.filterMap id) <$> (readings output).mapM (fileOf exit.fail load) := by
  unfold changedFiles readings
  split_ifs with hblank
  · rw [sections_lines_of_blank hblank]
    simp
  · obtain ⟨hls, hpre, hcut⟩ := foldr_cutStep_cut (lines output)
    -- lines in front of the first section belong to no file
    have hskip : (lines output).foldlM (Scan.line exit load) {} =
        ((sections (lines output)).flatMap Section.lines).foldlM (Scan.line exit load) {} := by
      conv_lhs => rw [hls]
      rw [List.foldlM_append, foldlM_line_of_path_none exit load rfl hpre, pure_bind]
    have hscan := foldlM_line_sections exit load hcut {}
    rw [map_eq_pure_bind, Scan.flush, pure_bind, pure_bind] at hscan
    simp only [← map_eq_pure_bind] at hscan ⊢
    rw [hskip, hscan, List.mapM_map]
    rfl

end Monads

end HouseRules.Diff
