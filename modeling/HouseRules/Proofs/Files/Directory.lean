import HouseRules.Files.Sources
import HouseRules.Proofs.Check.Quiet
import HouseRules.Proofs.Files.Glob
import HouseRules.Proofs.Text.Utf8

/-! # The source files below a directory

A directory that is named among the patterns stands for the source files below it. It is looked for
through a pattern that starts with its own path. If each name of the path fits itself as a pattern,
no source file below the directory is lost (`mem_resolve`): only those are left out that lie behind
a name with a dot in front, or in a directory of builds and tools. If a name does not fit itself,
and none is two stars, nothing below the directory is found in this way. -/

namespace HouseRules.Sources

/-! ### Files that patterns stand for -/

section Distinct

variable {α : Type} [BEq α] [LawfulBEq α] {a : α}

theorem mem_foldl_unless_seen (l : List α) : ∀ seen : List α,
    a ∈ l.foldl (fun seen b => if seen.contains b then seen else b :: seen) seen ↔
      a ∈ seen ∨ a ∈ l := by
  induction l with
  | nil => simp
  | cons b l ih =>
    intro seen
    rw [List.foldl_cons, ih, List.mem_cons]
    split_ifs with hb
    · rw [List.contains_iff_mem] at hb
      constructor
      · rintro (ha | ha)
        · exact Or.inl ha
        · exact Or.inr (Or.inr ha)
      · rintro (ha | rfl | ha)
        · exact Or.inl ha
        · exact Or.inl hb
        · exact Or.inr ha
    · rw [List.mem_cons]
      tauto

theorem mem_distinct (l : List α) : a ∈ distinct l ↔ a ∈ l := by
  rw [distinct, List.mem_reverse, mem_foldl_unless_seen]
  simp

end Distinct

variable {w : Workspace} {patterns : List String} {text : String} {p : Path}

theorem mem_resolve_iff : p ∈ resolve w patterns ↔
    (∃ text ∈ patterns, p ∈ pathsOf w text) ∧ w.tree.isFile p = true ∧
      isIncluded w.directory p = true := by
  rw [resolve, List.mem_filter, mem_distinct, List.mem_filter, List.mem_flatMap, and_assoc]

/-- The file can be read. -/
def Readable (w : Workspace) (p : Path) : Prop :=
  ∃ source, w.tree.bytes? p = some (Utf8.encode source)

/-- The file as it is read: its path as seen from the working directory, and its text. -/
structure IsReadOf (w : Workspace) (p : Path) (f : SourceFile) : Prop where
  path : f.path = (p.shortenedBy w.directory).toString
  contents : ∃ source, w.tree.bytes? p = some (Utf8.encode source) ∧
    f.contents = String.ofList (Text.unifyNewlines source.toList)

theorem Readable.exists_read (h : Readable w p) : ∃ f, read w p = .ok f ∧ IsReadOf w p f := by
  obtain ⟨source, hsource⟩ := h
  have htext : textOfFile ((w.tree.bytes? p).getD []) =
      .ok (String.ofList (Text.unifyNewlines source.toList)) := by
    rw [hsource, Option.getD_some, textOfFile, Utf8.decode_encode]
    rfl
  rw [read, htext]
  exact ⟨_, rfl, rfl, source, hsource, rfl⟩

/-- **Every file that is found is read**, if all can be. -/
theorem exists_mem_files (hread : ∀ q ∈ resolve w patterns, Readable w q)
    (hp : p ∈ resolve w patterns) : ∃ fs, files w patterns = .ok fs ∧ ∃ f ∈ fs, IsReadOf w p f := by
  have hsome : ∀ q ∈ resolve w patterns, ∃ f, read w q = .ok f := by
    intro q hq
    obtain ⟨f, hf, -⟩ := (hread q hq).exists_read
    exact ⟨f, hf⟩
  obtain ⟨fs, hfs⟩ := exists_mapM hsome
  obtain ⟨f, hf, hof⟩ := (hread p hp).exists_read
  have hfound : ¬ (!patterns.isEmpty && (resolve w patterns).isEmpty) = true := by
    simp [List.ne_nil_of_mem hp]
  refine ⟨fs, ?_, f, ((mem_of_mapM hfs).2 f).mpr ⟨p, hp, hf⟩, hof⟩
  simp only [files, if_neg hfound, hfs]

/-! ### Below a directory -/

/-- A source file below a directory that is not to be lost: no name on the way to it is hidden, and
none on its path from the working directory is the name of a directory of builds and tools. -/
structure IsSourceBelow (w : Workspace) (d : Path) (l : Location) : Prop where
  file : w.tree.isFile ⟨d.anchor, d.names ++ l⟩ = true
  ending : ∃ name ∈ l.getLast?, ".cs".toList <:+ name.toList
  visible : ∀ name ∈ l, name.toList.head? ≠ some '.'
  included : ∀ name ∈ (Path.shortenedBy ⟨d.anchor, d.names ++ l⟩ w.directory).components,
    name ∉ excludedNames

theorem fits_sourceName {name : String} (hend : ".cs".toList <:+ name.toList)
    (hvisible : Glob.isHidden name = false) : Glob.fits sourceName name = true := by
  obtain ⟨front, hfront⟩ := hend
  have hitems : Glob.items sourceName.toList = [.any, .char '.', .char 'c', .char 's'] := by
    decide +kernel
  have hrest : Glob.covers [.char '.', .char 'c', .char 's'] ".cs".toList = true := by
    decide +kernel
  rw [Glob.fits, hvisible, hitems, ← hfront, Glob.covers_any_append hrest front]
  simp

theorem isHidden_eq_false {name : String} (h : name.toList.head? ≠ some '.') :
    Glob.isHidden name = false := by
  rw [Glob.isHidden, beq_eq_false_iff_ne]
  exact h

/-- **The pattern of a directory stands for the source files below it.** -/
theorem mem_expand_below {d : Path} {front : Location} {name : String}
    (hfile : w.tree.isFile ⟨d.anchor, d.names ++ (front ++ [name])⟩ = true)
    (hend : ".cs".toList <:+ name.toList)
    (hvisible : ∀ n ∈ front ++ [name], Glob.isHidden n = false) :
    ⟨d.anchor, d.names ++ (front ++ [name])⟩ ∈ Glob.expand w.tree ["**", sourceName] [d] := by
  have hdots : ".." ∉ front ++ [name] := by
    intro hmem
    exact absurd (hvisible _ hmem) (by decide)
  obtain ⟨bytes, hfind⟩ : ∃ bytes,
      w.tree.find? ⟨d.anchor, d.names ++ (front ++ [name])⟩ = some (.file bytes) := by
    unfold FileTree.isFile at hfile
    split at hfile
    · rename_i bytes hfind
      exact ⟨bytes, hfind⟩
    · cases hfile
  rw [List.mem_append, not_or] at hdots
  -- Two stars lead to the directory that holds the file, and there the file's name is listed.
  have hmid : ⟨d.anchor, d.names ++ front⟩ ∈ Glob.step w.tree true "**" d := by
    have hdir : w.tree.isDirectory ⟨d.anchor, d.names ++ front⟩ = true := by
      rw [← List.append_assoc] at hfind
      exact FileTree.isDirectory_of_find? hfind
    have htop : w.tree.isDirectory d = true := FileTree.isDirectory_of_append hdir
    rw [Glob.step, if_pos rfl]
    simp only [htop, if_true]
    by_cases hfront : front = []
    · rw [hfront, List.append_nil]
      exact List.mem_cons_self
    · have hbelow : (front, Entry.directory) ∈ w.tree.below d :=
        FileTree.mem_below hdots.1 hfront (FileTree.find?_of_isDirectory hdir)
      refine List.mem_cons_of_mem _ (List.mem_filterMap.mpr ⟨_, hbelow, ?_⟩)
      have hall : front.all (fun n => !Glob.isHidden n) = true := by
        rw [List.all_eq_true]
        intro n hn
        rw [hvisible n (List.mem_append_left _ hn)]
        rfl
      simp [hall]
  have hlast : ⟨d.anchor, d.names ++ (front ++ [name])⟩ ∈
      Glob.step w.tree false sourceName ⟨d.anchor, d.names ++ front⟩ := by
    have hbelow : ([name], Entry.file bytes) ∈ w.tree.below ⟨d.anchor, d.names ++ front⟩ := by
      rw [← List.append_assoc] at hfind
      exact FileTree.mem_below hdots.2 (by simp) hfind
    have hfits := fits_sourceName hend (hvisible name (by simp))
    have hpattern : Glob.isPattern sourceName = true := by decide
    rw [Glob.step, if_neg (by decide), if_pos hpattern]
    refine List.mem_filterMap.mpr ⟨_, hbelow, ?_⟩
    simp [hfits, Path.child]
  refine Glob.mem_expand_cons_iff.mpr ⟨_, hmid, Glob.mem_expand_cons_iff.mpr ⟨_, hlast, ?_⟩⟩
  exact List.mem_singleton_self _

theorem pathsOf_directory (hdir : w.tree.isDirectory (pathOf w text) = true) :
    p ∈ pathsOf w text ↔ p ∈ Glob.expand w.tree ((pathOf w text).names ++ ["**", sourceName])
      [⟨(pathOf w text).anchor, []⟩] := by
  simp only [pathsOf, if_pos hdir, Glob.paths, List.mem_mergeSort, Path.child, List.append_assoc,
    List.singleton_append]

/-- **A source file below a named directory is found** if the names of the directory fit
themselves. -/
theorem mem_resolve (htext : text ∈ patterns) (hdir : w.tree.isDirectory (pathOf w text) = true)
    (hself : ∀ name ∈ (pathOf w text).names, Glob.fits name name = true) {l : Location}
    (hl : IsSourceBelow w (pathOf w text) l) :
    ⟨(pathOf w text).anchor, (pathOf w text).names ++ l⟩ ∈ resolve w patterns := by
  obtain ⟨name, hlast, hend⟩ := hl.ending
  obtain ⟨front, rfl⟩ : ∃ front, l = front ++ [name] := List.getLast?_eq_some_iff.mp hlast
  have hincluded : isIncluded w.directory
      ⟨(pathOf w text).anchor, (pathOf w text).names ++ (front ++ [name])⟩ = true := by
    rw [isIncluded, List.all_eq_true]
    intro n hn
    have hnot := hl.included n hn
    rw [← List.contains_iff_mem] at hnot
    simpa using hnot
  refine mem_resolve_iff.mpr ⟨⟨text, htext, ?_⟩, hl.file, hincluded⟩
  rw [pathsOf_directory hdir]
  exact Glob.mem_expand_names (p := ⟨(pathOf w text).anchor, []⟩) hself hdir
    (mem_expand_below hl.file hend fun n hn => isHidden_eq_false (hl.visible n hn))

/-- **A named directory loses no source file** whose way to it is not hidden and not excluded, if
all files that are found can be read and each name of the directory's path fits itself; a name
without an opening bracket does. If one does not, and none is two stars, then no path that the
directory is made to stand for leads below it. -/
theorem files_directory (htext : text ∈ patterns)
    (hdir : w.tree.isDirectory (pathOf w text) = true) :
    ((∀ q ∈ resolve w patterns, Readable w q) →
      (∀ name ∈ (pathOf w text).names, '[' ∈ name.toList → Glob.fits name name = true) →
      ∀ l, IsSourceBelow w (pathOf w text) l → ∃ fs, files w patterns = .ok fs ∧
        ∃ f ∈ fs, IsReadOf w ⟨(pathOf w text).anchor, (pathOf w text).names ++ l⟩ f) ∧
    ("**" ∉ (pathOf w text).names → ∀ name ∈ (pathOf w text).names, Glob.fits name name = false →
      ∀ q ∈ pathsOf w text, ¬ (pathOf w text).names <+: q.names) := by
  constructor
  · intro hread hbrackets l hl
    have hself : ∀ name ∈ (pathOf w text).names, Glob.fits name name = true := by
      intro name hname
      by_cases hbracket : '[' ∈ name.toList
      · exact hbrackets name hname hbracket
      · exact Glob.fits_self hbracket
    exact exists_mem_files hread (mem_resolve htext hdir hself hl)
  · intro hstars name hname hfits q hq hbelow
    rw [pathsOf_directory hdir] at hq
    have hself := Glob.forall_fits_of_mem_expand hstars hq hbelow name hname
    rw [hself] at hfits
    cases hfits

/-- A workspace with a directory of the given name and another one. -/
def bracketed (name : String) : Workspace where
  tree := ⟨[(["r"], .directory), (["r", name], .directory), (["r", name, "t"], .directory),
    (["r", name, "t", "x.cs"], .file []), (["r", "c"], .directory),
    (["r", "c", "y.cs"], .file [])]⟩
  directory := Path.ofString "/r"

/-- An opening bracket alone stands for itself: the file below the directory is found. -/
theorem files_directory_unclosed :
    (∀ q ∈ resolve (bracketed "s[") ["s["], Readable (bracketed "s[") q) ∧
      IsSourceBelow (bracketed "s[") (pathOf (bracketed "s[") "s[") ["t", "x.cs"] ∧
      ∃ fs, files (bracketed "s[") ["s["] = .ok fs ∧
        ∃ f ∈ fs, IsReadOf (bracketed "s[") ⟨.root, ["r", "s[", "t", "x.cs"]⟩ f := by
  have hdir : (bracketed "s[").tree.isDirectory (pathOf (bracketed "s[") "s[") = true := by
    decide +kernel
  have hresolve : resolve (bracketed "s[") ["s["] = [⟨.root, ["r", "s[", "t", "x.cs"]⟩] := by
    decide +kernel
  have hread : ∀ q ∈ resolve (bracketed "s[") ["s["], Readable (bracketed "s[") q := by
    intro q hq
    rw [hresolve, List.mem_singleton] at hq
    exact ⟨"", by rw [hq]; decide +kernel⟩
  have hpath : pathOf (bracketed "s[") "s[" = ⟨.root, ["r", "s["]⟩ := by decide +kernel
  have hself : ∀ name ∈ (pathOf (bracketed "s[") "s[").names, '[' ∈ name.toList →
      Glob.fits name name = true := by
    rw [hpath]
    decide +kernel
  have hbelow : IsSourceBelow (bracketed "s[") (pathOf (bracketed "s[") "s[") ["t", "x.cs"] :=
    ⟨by decide +kernel, ⟨"x.cs", rfl, by decide +kernel⟩, by decide +kernel, by decide +kernel⟩
  have h := (files_directory (List.mem_singleton_self "s[") hdir).1 hread hself _ hbelow
  rw [hpath] at h
  exact ⟨hread, hbelow, h⟩

/-- Brackets around a letter stand for the letter: the file below the directory is lost. -/
theorem files_directory_brackets :
    (bracketed "a[b]").tree.isDirectory (pathOf (bracketed "a[b]") "a[b]") = true ∧
      IsSourceBelow (bracketed "a[b]") (pathOf (bracketed "a[b]") "a[b]") ["t", "x.cs"] ∧
      Readable (bracketed "a[b]") ⟨.root, ["r", "a[b]", "t", "x.cs"]⟩ ∧
      (files (bracketed "a[b]") ["a[b]", "c"]).toOption.map (·.map (·.path)) =
        some ["c/y.cs"] := by
  refine ⟨by decide +kernel, ?_, ⟨"", by decide +kernel⟩, by decide +kernel⟩
  exact ⟨by decide +kernel, ⟨"x.cs", rfl, by decide +kernel⟩, by decide +kernel,
    by decide +kernel⟩

end HouseRules.Sources
