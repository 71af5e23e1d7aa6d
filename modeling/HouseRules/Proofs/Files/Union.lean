import HouseRules.Proofs.Files.Directory
import Mathlib.Data.List.Nodup

/-! # The files that several patterns stand for

The files of two lists of patterns, one after the other, are the files of the first list and those
of the second that are not among them (`resolve_append`). The paths that are found all differ, and
so do their written forms: a path is read back from its written form (`Path.ofString_toString`), and
seen from the working directory no two of them become the same (`Path.shortenedBy_injective`). -/

namespace HouseRules

/-! ### Elements without repetitions -/

namespace Sources

section Distinct

variable {α : Type} [DecidableEq α]

theorem distinct_concat (l : List α) (a : α) :
    distinct (l ++ [a]) = if a ∈ l then distinct l else distinct l ++ [a] := by
  have hseen : (l.foldl (fun seen b => if seen.contains b then seen else b :: seen) []).contains a =
      true ↔ a ∈ l := by
    rw [List.contains_iff_mem, mem_foldl_unless_seen]
    simp
  rw [distinct, List.foldl_append, List.foldl_cons, List.foldl_nil]
  split_ifs with h₁ h₂ h₂
  · rfl
  · exact absurd (hseen.mp h₁) h₂
  · exact absurd (hseen.mpr h₂) h₁
  · rw [List.reverse_cons]
    rfl

theorem nodup_distinct (l : List α) : (distinct l).Nodup := by
  induction l using List.reverseRecOn with
  | nil => exact List.nodup_nil
  | append_singleton l a ih =>
    rw [distinct_concat]
    split_ifs with ha
    · exact ih
    · refine List.Nodup.append ih (List.nodup_singleton a) ?_
      rw [List.disjoint_singleton, mem_distinct]
      exact ha

/-- **The second list adds what is not in the first.** -/
theorem distinct_append (l m : List α) :
    distinct (l ++ m) = distinct l ++ (distinct m).filter (· ∉ l) := by
  induction m using List.reverseRecOn with
  | nil =>
    rw [List.append_nil]
    exact (List.append_nil _).symm
  | append_singleton m b ih =>
    rw [← List.append_assoc, distinct_concat, distinct_concat, ih]
    by_cases hm : b ∈ m
    · rw [if_pos (List.mem_append_right l hm), if_pos hm]
    · rw [if_neg hm, List.filter_append]
      by_cases hl : b ∈ l
      · rw [if_pos (List.mem_append_left m hl), List.filter_cons_of_neg (by simpa using hl),
          List.filter_nil, List.append_nil]
      · have hnot : b ∉ l ++ m := by
          rw [List.mem_append, not_or]
          exact ⟨hl, hm⟩
        rw [if_neg hnot, List.filter_cons_of_pos (by simpa using hl), List.filter_nil,
          List.append_assoc]

end Distinct

variable {w : Workspace} {ps qs : List String} {p q : Path}

/-- **More patterns add the files that are not yet found.** -/
theorem resolve_append (w : Workspace) (ps qs : List String) :
    resolve w (ps ++ qs) = resolve w ps ++ (resolve w qs).filter (· ∉ resolve w ps) := by
  rw [resolve, List.flatMap_append, List.filter_append, distinct_append, List.filter_append,
    List.filter_filter]
  have hsecond : ∀ seen : Path → Bool, (resolve w qs).filter seen =
      (distinct ((qs.flatMap (pathsOf w)).filter w.tree.isFile)).filter
        fun p => seen p && isIncluded w.directory p := fun seen => by
    rw [resolve, List.filter_filter]
  rw [hsecond]
  refine congrArg (resolve w ps ++ ·) (List.filter_congr fun p _ => ?_)
  -- an excluded file of the first list is remembered, but then it is excluded from both sides
  have hfirst : isIncluded w.directory p = true →
      (p ∈ resolve w ps ↔ p ∈ (ps.flatMap (pathsOf w)).filter w.tree.isFile) := by
    intro hp
    rw [resolve, List.mem_filter, mem_distinct, and_iff_left hp]
  by_cases hp : isIncluded w.directory p = true
  · simp only [hp, Bool.true_and, Bool.and_true, hfirst hp]
  · simp [hp]

theorem nodup_resolve (w : Workspace) (ps : List String) : (resolve w ps).Nodup :=
  (nodup_distinct _).filter _

end Sources

/-! ### Written paths -/

/-- A name that a file can have, or double dots. -/
def IsName (n : String) : Prop := n ≠ "" ∧ n ≠ "." ∧ '/' ∉ n.toList

instance (n : String) : Decidable (IsName n) :=
  inferInstanceAs (Decidable (n ≠ "" ∧ n ≠ "." ∧ '/' ∉ n.toList))

namespace Path

variable {p q base : Path} {ns : List String}

theorem toList_joinNames (ns : List String) :
    (joinNames ns).toList = Search.join ['/'] (ns.map String.toList) := by
  rw [joinNames, String.toList_intercalate, Search.intercalate_eq_join]
  rfl

/-- The names of a path are read back from its written form. -/
theorem splitNames_joinNames (h : ∀ n ∈ ns, IsName n) {front : List Char}
    (hfront : ∀ c ∈ front, c = '/') :
    splitNames (String.ofList (front ++ (joinNames ns).toList)) = ns := by
  induction front with
  | nil =>
    rw [splitNames, String.toList_ofList, List.nil_append, toList_joinNames]
    cases ns with
    | nil => rfl
    | cons n ns =>
      have hpieces : Search.pieces '/' (Search.join ['/'] ((n :: ns).map String.toList)) =
          (n :: ns).map String.toList := by
        refine Search.pieces_join (by simp) fun l hl => ?_
        obtain ⟨m, hm, rfl⟩ := List.mem_map.mp hl
        exact (h m hm).2.2
      have hnames : ((n :: ns).map String.toList).map String.ofList = n :: ns := by simp
      rw [hpieces, hnames]
      refine List.filter_eq_self.mpr fun m hm => ?_
      simp [(h m hm).1, (h m hm).2.1]
  | cons c front ih =>
    rw [List.forall_mem_cons] at hfront
    have hrest := ih hfront.2
    rw [splitNames, String.toList_ofList] at hrest ⊢
    rw [hfront.1, List.cons_append, Search.pieces_sep_cons, List.map_cons,
      List.filter_cons_of_neg (by decide), hrest]

theorem anchorOf_append {r : List Char} (h : r.head? ≠ some '/') (a : Anchor) :
    anchorOf (String.ofList (a.text.toList ++ r)) = a := by
  unfold anchorOf
  rw [String.toList_ofList]
  cases r with
  | nil => cases a <;> rfl
  | cons c r =>
    have hc : c ≠ '/' := by simpa using h
    cases a with
    | relative => simp [Anchor.text, hc]
    | root => simp [Anchor.text, hc]
    | doubleRoot => simp [Anchor.text, hc]

theorem head?_joinNames (h : ∀ n ∈ ns, IsName n) : (joinNames ns).toList.head? ≠ some '/' := by
  rw [toList_joinNames]
  cases ns with
  | nil => simp [Search.join]
  | cons n ns =>
    obtain ⟨hempty, -, hslash⟩ := h n List.mem_cons_self
    obtain ⟨c, cs, hc⟩ := List.exists_cons_of_ne_nil fun hnil =>
      hempty (String.toList_eq_nil_iff.mp hnil)
    rw [hc, List.mem_cons, not_or] at hslash
    have hne : c ≠ '/' := Ne.symm hslash.1
    cases ns <;> simp [Search.join, hc, hne]

/-- **A path is read back from its written form.** -/
theorem ofString_toString (h : ∀ n ∈ p.names, IsName n) : ofString p.toString = p := by
  obtain ⟨a, ns⟩ := p
  unfold toString
  split_ifs with hdot
  · obtain ⟨rfl, rfl⟩ := hdot
    decide
  · have hall : a.text.toList.all (· == '/') = true := by
      cases a <;> decide
    have hanchor : ∀ c ∈ a.text.toList, c = '/' := fun c hc =>
      beq_iff_eq.mp (List.all_eq_true.mp hall c hc)
    have hwritten : a.text ++ joinNames ns =
        String.ofList (a.text.toList ++ (joinNames ns).toList) := by
      rw [← String.toList_append, String.ofList_toList]
    rw [ofString, hwritten, anchorOf_append (head?_joinNames h), splitNames_joinNames h hanchor]

/-! ### Paths seen from a base -/

theorem relativeTo?_eq_some_iff : p.relativeTo? base = some q ↔
    ∃ l, q = ⟨.relative, l⟩ ∧ p = ⟨base.anchor, base.names ++ l⟩ := by
  obtain ⟨a, ns⟩ := p
  unfold relativeTo? Search.after?
  split_ifs with hanchor hbelow
  · obtain ⟨l, rfl⟩ := List.isPrefixOf_iff_prefix.mp hbelow
    rw [Option.map_some, Option.some.injEq, List.drop_left]
    constructor
    · rintro rfl
      exact ⟨l, rfl, by rw [← hanchor]⟩
    · rintro ⟨l', rfl, hp⟩
      rw [List.append_cancel_left (congrArg names hp)]
  · refine iff_of_false (by simp) ?_
    rintro ⟨l, -, hp⟩
    refine absurd (List.isPrefixOf_iff_prefix.mpr ⟨l, ?_⟩) hbelow
    exact (congrArg names hp).symm
  · refine iff_of_false (by simp) ?_
    rintro ⟨l, -, hp⟩
    exact absurd (congrArg anchor hp) hanchor

/-- **Seen from a base, different absolute paths stay different.** -/
theorem shortenedBy_injective (hp : p.isAbsolute = true) (hq : q.isAbsolute = true)
    (h : p.shortenedBy base = q.shortenedBy base) : p = q := by
  have hmixed : ∀ {p q r : Path}, q.isAbsolute = true → p.relativeTo? base = some r → r ≠ q := by
    rintro p q r hq hr rfl
    obtain ⟨l, rfl, -⟩ := relativeTo?_eq_some_iff.mp hr
    exact absurd hq (by simp [isAbsolute])
  unfold shortenedBy at h
  cases hr : p.relativeTo? base with
  | none =>
    cases hs : q.relativeTo? base with
    | none =>
      rw [hr, hs] at h
      exact h
    | some s =>
      rw [hr, hs] at h
      exact absurd h.symm (hmixed hp hs)
  | some r =>
    cases hs : q.relativeTo? base with
    | none =>
      rw [hr, hs] at h
      exact absurd h (hmixed hq hr)
    | some s =>
      rw [hr, hs, Option.getD_some, Option.getD_some] at h
      obtain ⟨l, rfl, rfl⟩ := relativeTo?_eq_some_iff.mp hr
      obtain ⟨l', hl', rfl⟩ := relativeTo?_eq_some_iff.mp hs
      cases h.trans hl'
      rfl

theorem mem_names_shortenedBy {n : String} (h : n ∈ (p.shortenedBy base).names) : n ∈ p.names := by
  unfold shortenedBy at h
  cases hr : p.relativeTo? base with
  | none =>
    rw [hr] at h
    exact h
  | some r =>
    obtain ⟨l, rfl, rfl⟩ := relativeTo?_eq_some_iff.mp hr
    rw [hr] at h
    exact List.mem_append_right _ h

end Path

/-! ### Files of a tree -/

namespace FileTree

variable {t : FileTree}

/-- The names in the tree are names that files can have. -/
def IsProper (t : FileTree) : Prop := ∀ e ∈ t.entries, ∀ n ∈ e.1, IsName n

instance (t : FileTree) : Decidable t.IsProper :=
  inferInstanceAs (Decidable (∀ e ∈ t.entries, ∀ n ∈ e.1, IsName n))

/-- Whoever is led somewhere goes by names of the tree. -/
theorem isName_of_follow (ht : t.IsProper) : ∀ {ns : List String} {here there : Location},
    t.follow here ns = some there → ∀ n ∈ ns, IsName n
  | [], _, _, _ => by simp
  | n :: ns, here, there, h => by
    simp only [follow] at h
    rw [List.forall_mem_cons]
    by_cases hn : n = ".."
    · rw [if_pos hn] at h
      split_ifs at h
      exact ⟨by rw [hn]; decide, isName_of_follow ht h⟩
    · rw [if_neg hn] at h
      split_ifs at h with hdir hnext
      refine ⟨?_, isName_of_follow ht h⟩
      unfold entry? at hnext
      rw [if_neg (by simp)] at hnext
      obtain ⟨e, he⟩ := Option.isSome_iff_exists.mp hnext
      exact ht _ (mem_of_lookup he) n (by simp)

theorem isName_of_isFile (ht : t.IsProper) {p : Path} (h : t.isFile p = true) :
    ∀ n ∈ p.names, IsName n := by
  unfold isFile at h
  split at h
  · rename_i bytes hfind
    obtain ⟨there, hthere, -⟩ := Option.bind_eq_some_iff.mp hfind
    exact isName_of_follow ht hthere
  · cases h

end FileTree

namespace Sources

variable {w : Workspace} {ps qs : List String} {p q : Path}

theorem isAbsolute_pathOf (w : Workspace) (text : String) : (pathOf w text).isAbsolute = true := by
  change (if (Path.ofString text).isAbsolute then Path.ofString text
    else (⟨w.directory.anchor, _⟩ : Path)).isAbsolute = true
  split_ifs with htext
  · exact htext
  · exact w.absolute

theorem isAbsolute_of_mem_resolve (hp : p ∈ resolve w ps) : p.isAbsolute = true := by
  obtain ⟨⟨text, -, hmem⟩, -⟩ := mem_resolve_iff.mp hp
  have hglob : ∀ pattern : Path, pattern.isAbsolute = true → p ∈ Glob.paths w.tree pattern →
      p.isAbsolute = true := by
    intro pattern hpattern hmem
    obtain ⟨l, rfl⟩ := Glob.exists_of_mem_expand (List.mem_mergeSort.mp hmem)
    exact hpattern
  have htext := isAbsolute_pathOf w text
  simp only [pathsOf] at hmem
  split_ifs at hmem
  · exact hglob (((pathOf w text).child "**").child sourceName) htext hmem
  · exact hglob _ htext hmem
  · rw [List.mem_singleton.mp hmem]
    exact htext

/-- **Different files have different paths** as they are seen from the working directory. -/
theorem written_injective (htree : w.tree.IsProper) (hp : p ∈ resolve w ps) (hq : q ∈ resolve w ps)
    (h : (p.shortenedBy w.directory).toString = (q.shortenedBy w.directory).toString) : p = q := by
  have hread : ∀ {p : Path}, p ∈ resolve w ps →
      Path.ofString (p.shortenedBy w.directory).toString = p.shortenedBy w.directory := by
    intro p hp
    refine Path.ofString_toString fun n hn => ?_
    exact FileTree.isName_of_isFile htree (mem_resolve_iff.mp hp).2.1 n
      (Path.mem_names_shortenedBy hn)
  have hshort : p.shortenedBy w.directory = q.shortenedBy w.directory := by
    rw [← hread hp, ← hread hq, h]
  exact Path.shortenedBy_injective (isAbsolute_of_mem_resolve hp)
    (isAbsolute_of_mem_resolve hq) hshort

theorem path_of_read {f : SourceFile} (h : read w p = .ok f) :
    f.path = (p.shortenedBy w.directory).toString := by
  unfold read at h
  cases htext : textOfFile ((w.tree.bytes? p).getD []) with
  | ok contents =>
    rw [htext] at h
    cases h
    rfl
  | error fault =>
    rw [htext] at h
    cases h

theorem map_path_of_mapM_read : ∀ {l : List Path} {fs : List SourceFile},
    l.mapM (read w) = .ok fs →
      fs.map (·.path) = l.map fun p => (p.shortenedBy w.directory).toString
  | [], fs, h => by
    cases h
    rfl
  | p :: l, fs, h => by
    rw [List.mapM_cons] at h
    cases hp : read w p with
    | error e =>
      rw [hp] at h
      cases h
    | ok f =>
      cases hl : l.mapM (read w) with
      | error e =>
        rw [hp, hl] at h
        cases h
      | ok fs' =>
        rw [hp, hl] at h
        cases h
        rw [List.map_cons, List.map_cons, map_path_of_mapM_read hl, path_of_read hp]

/-- Files that are read are those found, in their order. -/
theorem map_path_of_files {fs : List SourceFile} (h : files w ps = .ok fs) :
    fs.map (·.path) = (resolve w ps).map fun p => (p.shortenedBy w.directory).toString := by
  simp only [files] at h
  split_ifs at h
  exact map_path_of_mapM_read h

theorem not_excluded_of_isIncluded {base : Path} (h : isIncluded base p = true) :
    (∀ l, p = ⟨base.anchor, base.names ++ l⟩ → ∀ n ∈ l, n ∉ excludedNames) ∧
      ((∀ l, p ≠ ⟨base.anchor, base.names ++ l⟩) → ∀ n ∈ p.names, n ∉ excludedNames) := by
  have hnames : ∀ n ∈ (p.shortenedBy base).names, n ∉ excludedNames := by
    intro n hn
    have hmem : n ∈ (p.shortenedBy base).components := by
      unfold Path.components
      split_ifs
      · exact List.mem_cons_of_mem _ hn
      · exact hn
    have hnot := List.all_eq_true.mp h n hmem
    simpa using hnot
  constructor
  · intro l hl
    rwa [Path.shortenedBy, Path.relativeTo?_eq_some_iff.mpr ⟨l, rfl, hl⟩] at hnames
  · intro houtside
    cases hr : p.relativeTo? base with
    | none => rwa [Path.shortenedBy, hr] at hnames
    | some r =>
      obtain ⟨l, -, hl⟩ := Path.relativeTo?_eq_some_iff.mp hr
      exact absurd hl (houtside l)

/-- **Patterns are resolved to an ordered union.** The files of two lists of patterns are those of
the first, followed by those of the second that are not among them. What is found holds no path
twice, only paths that lead to files, and none with the name of a directory of builds and tools
below the working directory or, elsewhere, on the whole path. The files that are read have the paths
that were found, in their order and as seen from the working directory, and these all differ. -/
theorem resolve_union (htree : w.tree.IsProper) (ps qs : List String) :
    resolve w (ps ++ qs) = resolve w ps ++ (resolve w qs).filter (· ∉ resolve w ps) ∧
      (resolve w ps).Nodup ∧
      (∀ p ∈ resolve w ps, w.tree.isFile p = true ∧
        (∀ l, p = ⟨w.directory.anchor, w.directory.names ++ l⟩ → ∀ n ∈ l, n ∉ excludedNames) ∧
        ((∀ l, p ≠ ⟨w.directory.anchor, w.directory.names ++ l⟩) →
          ∀ n ∈ p.names, n ∉ excludedNames)) ∧
      ∀ fs, files w ps = .ok fs →
        fs.map (·.path) = (resolve w ps).map (fun p => (p.shortenedBy w.directory).toString) ∧
        (fs.map (·.path)).Nodup := by
  refine ⟨resolve_append w ps qs, nodup_resolve w ps, fun p hp => ?_, fun fs hfs => ?_⟩
  · obtain ⟨-, hfile, hincluded⟩ := mem_resolve_iff.mp hp
    exact ⟨hfile, not_excluded_of_isIncluded hincluded⟩
  · have hpaths := map_path_of_files hfs
    refine ⟨hpaths, ?_⟩
    rw [hpaths]
    exact (nodup_resolve w ps).map_on fun p hp q hq => written_injective htree hp hq

/-- A workspace with a file, a directory, and a directory of builds. -/
def overlapping : Workspace where
  tree := ⟨[(["r"], .directory), (["r", "a.cs"], .file []), (["r", "d"], .directory),
    (["r", "d", "b.cs"], .file []), (["r", "bin"], .directory), (["r", "bin", "c.cs"], .file []),
    (["s.cs"], .file [])]⟩
  directory := Path.ofString "/r"

/-- Files, directories and patterns that stand for the same files. -/
theorem resolve_union_overlapping : overlapping.tree.IsProper ∧
    resolve overlapping (["d", "/s.cs", "d/b.cs"] ++ ["*.cs", "bin/c.cs", "d", "none", "../s.cs"]) =
      [⟨.root, ["r", "d", "b.cs"]⟩, ⟨.root, ["s.cs"]⟩] ++
        [⟨.root, ["r", "a.cs"]⟩, ⟨.root, ["r", "..", "s.cs"]⟩] ∧
    ∃ fs, files overlapping ["d", "/s.cs", "d/b.cs"] = .ok fs ∧
      fs.map (·.path) = ["d/b.cs", "/s.cs"] := by
  have htree : overlapping.tree.IsProper := by decide +kernel
  have hfirst : resolve overlapping ["d", "/s.cs", "d/b.cs"] =
      [⟨.root, ["r", "d", "b.cs"]⟩, ⟨.root, ["s.cs"]⟩] := by decide +kernel
  have hsecond : resolve overlapping ["*.cs", "bin/c.cs", "d", "none", "../s.cs"] =
      [⟨.root, ["r", "a.cs"]⟩, ⟨.root, ["r", "d", "b.cs"]⟩, ⟨.root, ["r", "..", "s.cs"]⟩] := by
    decide +kernel
  obtain ⟨hunion, -, -, hread⟩ :=
    resolve_union htree ["d", "/s.cs", "d/b.cs"] ["*.cs", "bin/c.cs", "d", "none", "../s.cs"]
  rw [hfirst] at hread
  refine ⟨htree, ?_, ?_⟩
  · rw [hunion, hfirst, hsecond]
    decide +kernel
  · have hok : (files overlapping ["d", "/s.cs", "d/b.cs"]).toOption.isSome = true := by
      decide +kernel
    cases hfiles : files overlapping ["d", "/s.cs", "d/b.cs"] with
    | error e =>
      rw [hfiles] at hok
      cases hok
    | ok fs =>
      refine ⟨fs, rfl, (hread fs hfiles).1.trans ?_⟩
      decide +kernel

end Sources

end HouseRules
