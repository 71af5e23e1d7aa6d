import HouseRules.Proofs.Check.Quiet
import HouseRules.Proofs.Source.Preorder
import Mathlib.Data.List.Forall2
import Mathlib.Data.List.Infix

/-! # The methods that are reported

The check on asynchronous methods is fixed by the tree of the file and the set of filters: a filter
that matches suppresses the file (`suppressed_eq`); otherwise the first method that lacks a part is
a failure (`mapM_inspect_lacks`); otherwise the methods that offend are reported, one finding each,
in pre-order (`mapM_inspect_complete`). `execute_file` puts the three together. -/

namespace HouseRules

/-! ### Parts of a node -/

namespace SyntaxNode

variable {n : SyntaxNode}

/-- A child plays the part. -/
def Has (n : SyntaxNode) (field : String) : Prop := ∃ c ∈ n.children, c.field = some field

instance (n : SyntaxNode) (field : String) : Decidable (n.Has field) :=
  inferInstanceAs (Decidable (∃ c ∈ n.children, c.field = some field))

/-- The first child that plays the part. -/
def part? (n : SyntaxNode) (field : String) : Option SyntaxNode :=
  n.children.find? (·.field = some field)

/-- The type of a method: its type, or else its result. -/
def typePart? (n : SyntaxNode) : Option SyntaxNode := (n.part? "type").or (n.part? "returns")

theorem part?_eq (n : SyntaxNode) (field : String) :
    n.children.find? (·.field == some field) = n.part? field := by
  unfold part?
  congr 1
  funext c
  rw [Bool.eq_iff_iff, beq_iff_eq, decide_eq_true_eq]

theorem part?_isSome_iff (field : String) : (n.part? field).isSome ↔ n.Has field := by
  simp [part?, Has]

theorem child?_type (n : SyntaxNode) : n.child? "type" = n.typePart? := by
  rw [child?, fieldNames, if_pos rfl]
  simp only [part?_eq, List.findSome?_cons, List.findSome?_nil, typePart?]
  cases n.part? "type" <;> cases n.part? "returns" <;> rfl

theorem child?_name (n : SyntaxNode) : n.child? "name" = n.part? "name" := by
  rw [child?, fieldNames, if_neg (by decide)]
  simp only [part?_eq, List.findSome?_cons, List.findSome?_nil]
  cases n.part? "name" <;> rfl

end SyntaxNode

/-! ### Namespaces -/

namespace SyntaxTree

variable {t : SyntaxTree}

/-- Each namespace declaration has a name. -/
def NamesNamespaces (t : SyntaxTree) : Prop :=
  ∀ n ∈ t.root.preorder, n.kind ∈ namespaceKinds → n.Has "name"

instance (t : SyntaxTree) : Decidable t.NamesNamespaces :=
  inferInstanceAs (Decidable (∀ n ∈ t.root.preorder, n.kind ∈ namespaceKinds → n.Has "name"))

theorem exists_namespaces (h : t.NamesNamespaces) : ∃ names, t.namespaces = .ok names := by
  have hnode : ∀ n ∈ t.nodes, ∃ name?, t.namespaceOf? n = .ok name? := by
    intro n hn
    rw [nodes_eq_preorder] at hn
    unfold namespaceOf?
    split
    · rename_i hkind
      have hhas := h n hn (List.contains_iff_mem.mp hkind)
      obtain ⟨name, hname⟩ :=
        Option.isSome_iff_exists.mp ((SyntaxNode.part?_isSome_iff "name").mpr hhas)
      refine ⟨some (t.textOf name), ?_⟩
      rw [SyntaxNode.requiredChild, SyntaxNode.child?_name, hname]
      rfl
    · split
      · exact ⟨_, rfl⟩
      · exact ⟨_, rfl⟩
  obtain ⟨names?, hnames⟩ := exists_mapM hnode
  exact ⟨names?.filterMap id, by rw [namespaces, hnames]; rfl⟩

/-- A search among the namespaces that stops at the first hit finds what there is to find. -/
theorem anyNamespaceIn_eq (test : String → Bool) : ∀ {ns : List SyntaxNode}
    {names? : List (Option String)}, ns.mapM t.namespaceOf? = .ok names? →
      t.anyNamespaceIn test ns = .ok ((names?.filterMap id).any test)
  | [], names?, h => by
    cases h
    rfl
  | n :: ns, names?, h => by
    rw [List.mapM_cons] at h
    cases hn : t.namespaceOf? n with
    | error e =>
      rw [hn] at h
      cases h
    | ok name? =>
      rw [hn] at h
      cases hns : ns.mapM t.namespaceOf? with
      | error e =>
        rw [hns] at h
        cases h
      | ok rest =>
        rw [hns] at h
        cases h
        have ih := anyNamespaceIn_eq test hns
        rw [anyNamespaceIn, hn]
        cases name? with
        | none => exact ih
        | some name =>
          change (if test name then pure true else t.anyNamespaceIn test ns) = _
          have hcons : (some name :: rest).filterMap id = name :: rest.filterMap id := rfl
          rw [ih, hcons, List.any_cons]
          cases test name <;> rfl

theorem anyNamespace_eq {names : List String} (h : t.namespaces = .ok names)
    (test : String → Bool) : t.anyNamespace test = .ok (names.any test) := by
  rw [namespaces] at h
  cases hall : t.nodes.mapM t.namespaceOf? with
  | error e =>
    rw [hall] at h
    cases h
  | ok names? =>
    rw [hall] at h
    cases h
    exact anyNamespaceIn_eq test hall

end SyntaxTree

namespace AsyncSuffix

variable {f : SourceFile} {n : SyntaxNode}

/-! ### Filters -/

/-- Some filter matches the path of the file or one of its namespaces. -/
def Suppressed (f : SourceFile) (names : List String) (filters : List Filter) : Prop :=
  (∃ p, Filter.path p ∈ filters ∧ p.found f.path = true) ∨
    ∃ p, Filter.namespaced p ∈ filters ∧ ∃ name ∈ names, p.found name = true

/-- The filter matches the path of the file or one of its namespaces. -/
def matchesFile (f : SourceFile) (names : List String) : Filter → Bool
  | .path p => p.found f.path
  | .namespaced p => names.any p.found

/-- **The order of filters does not matter**: the file is suppressed if one of them matches. -/
theorem suppressed_eq {names : List String} (hnames : f.tree.namespaces = .ok names)
    (filters : List Filter) :
    suppressed f filters = .ok (filters.any (matchesFile f names)) := by
  induction filters with
  | nil => rfl
  | cons g gs ih =>
    -- All names can be read, so it does not matter where a search among them stops.
    have hg : suppressedBy f g = .ok (matchesFile f names g) := by
      cases g with
      | path p => rfl
      | namespaced p => exact SyntaxTree.anyNamespace_eq hnames p.found
    rw [suppressed, hg, List.any_cons]
    change (if matchesFile f names g then pure true else suppressed f gs) = _
    rw [ih]
    cases matchesFile f names g <;> rfl

theorem any_matchesFile_iff (f : SourceFile) (names : List String) (filters : List Filter) :
    filters.any (matchesFile f names) = true ↔ Suppressed f names filters := by
  rw [List.any_eq_true, Suppressed]
  constructor
  · rintro ⟨g, hg, hmatch⟩
    cases g with
    | path p => exact Or.inl ⟨p, hg, hmatch⟩
    | namespaced p => exact Or.inr ⟨p, hg, List.any_eq_true.mp hmatch⟩
  · rintro (⟨p, hp, hfound⟩ | ⟨p, hp, hfound⟩)
    · exact ⟨_, hp, hfound⟩
    · exact ⟨_, hp, List.any_eq_true.mpr hfound⟩

/-! ### Methods -/

/-- The methods and local functions of a file, nested ones too, in pre-order. -/
def methods (f : SourceFile) : List SyntaxNode := f.root.preorder.filter (·.kind ∈ methodKinds)

/-- The method has a type or result, and a name. -/
def Complete (n : SyntaxNode) : Prop := (n.Has "type" ∨ n.Has "returns") ∧ n.Has "name"

instance (n : SyntaxNode) : Decidable (Complete n) :=
  inferInstanceAs (Decidable ((n.Has "type" ∨ n.Has "returns") ∧ n.Has "name"))

/-- The method lacks a part. A type is missed before a name. -/
inductive Lacks (n : SyntaxNode) : String → Prop where
  | type (htype : ¬ n.Has "type") (hreturns : ¬ n.Has "returns") : Lacks n "type"
  | name (htype : n.Has "type" ∨ n.Has "returns") (hname : ¬ n.Has "name") : Lacks n "name"

theorem exists_lacks (h : ¬ Complete n) : ∃ field, Lacks n field := by
  rw [Complete, not_and_or, not_or] at h
  by_cases htype : n.Has "type" ∨ n.Has "returns"
  · exact ⟨_, .name htype (h.resolve_left fun hnone => htype.elim hnone.1 hnone.2)⟩
  · exact ⟨_, .type (fun h => htype (Or.inl h)) fun h => htype (Or.inr h)⟩

/-- The type of the method mentions a task, and its name lacks the ending. -/
def Offends (f : SourceFile) (n : SyntaxNode) : Prop :=
  ∃ type name, n.typePart? = some type ∧ n.part? "name" = some name ∧
    task.toList <:+: (f.tree.textOf type).toList ∧ ¬ suffix.toList <:+ (f.tree.textOf name).toList

theorem offends_eq_true_iff {type name : String} : offends type name = true ↔
    task.toList <:+: type.toList ∧ ¬ suffix.toList <:+ name.toList := by
  rw [← Bool.not_eq_false, offends_eq_false_iff, Classical.not_imp]

theorem any_offends_iff (f : SourceFile) (n : SyntaxNode) :
    (n.typePart?.any fun type => (n.part? "name").any fun name =>
      offends (f.tree.textOf type) (f.tree.textOf name)) = true ↔ Offends f n := by
  simp only [Option.any_eq_true, offends_eq_true_iff, Offends]
  constructor
  · rintro ⟨type, htype, name, hname, h⟩
    exact ⟨type, name, htype, hname, h⟩
  · rintro ⟨type, name, htype, hname, h⟩
    exact ⟨type, htype, name, hname, h⟩

instance (f : SourceFile) : DecidablePred (Offends f) :=
  fun n => decidable_of_iff _ (any_offends_iff f n)

/-- The finding is the one for a method. -/
structure Reports (rendering : Rendering) (f : SourceFile) (n : SyntaxNode) (x : Finding) :
    Prop where
  checkId : x.checkId = checkId
  path : x.path = f.path
  commit : x.commitId = none
  message : ∃ name, n.part? "name" = some name ∧ x.message = rendering.render (message f name)

theorem typePart?_isSome_iff : n.typePart?.isSome ↔ n.Has "type" ∨ n.Has "returns" := by
  rw [SyntaxNode.typePart?, Option.isSome_or, Bool.or_eq_true, SyntaxNode.part?_isSome_iff,
    SyntaxNode.part?_isSome_iff]

theorem Complete.exists_parts (h : Complete n) :
    ∃ type name, n.typePart? = some type ∧ n.part? "name" = some name := by
  obtain ⟨type, htype⟩ := Option.isSome_iff_exists.mp (typePart?_isSome_iff.mpr h.1)
  obtain ⟨name, hname⟩ := Option.isSome_iff_exists.mp ((SyntaxNode.part?_isSome_iff _).mpr h.2)
  exact ⟨type, name, htype, hname⟩

theorem inspect_complete (rendering : Rendering) (f : SourceFile) (h : Complete n) :
    ∃ x?, inspect rendering f n = .ok x? ∧ (∀ x, x? = some x → Reports rendering f n x) ∧
      (x?.isSome ↔ Offends f n) := by
  obtain ⟨type, name, htype, hname⟩ := h.exists_parts
  have hoffends : Offends f n ↔ offends (f.tree.textOf type) (f.tree.textOf name) = true := by
    rw [← any_offends_iff, htype, hname]
    rfl
  have hinspect : inspect rendering f n = .ok
      (if offends (f.tree.textOf type) (f.tree.textOf name) then
        some ⟨checkId, rendering.render (message f name), f.path, none⟩ else none) := by
    rw [inspect, SyntaxNode.requiredChild, SyntaxNode.requiredChild, SyntaxNode.child?_type, htype,
      SyntaxNode.child?_name, hname]
    change (if offends (f.tree.textOf type) (f.tree.textOf name) then _ else _) = _
    split <;> rfl
  refine ⟨_, hinspect, ?_, ?_⟩
  · intro x hx
    split at hx
    · cases hx
      exact ⟨rfl, rfl, rfl, name, hname, rfl⟩
    · cases hx
  · rw [hoffends, Option.isSome_ite]

theorem inspect_lacks (rendering : Rendering) (f : SourceFile) {field : String}
    (h : Lacks n field) :
    inspect rendering f n = .error (.missingField n.kind n.start n.stop field) := by
  cases h with
  | type htype hreturns =>
    have hnone : n.typePart? = none := by
      rw [← Option.not_isSome_iff_eq_none, typePart?_isSome_iff]
      exact not_or.mpr ⟨htype, hreturns⟩
    rw [inspect, SyntaxNode.requiredChild, SyntaxNode.child?_type, hnone]
    rfl
  | name htype hname =>
    have hnone : n.part? "name" = none := by
      rw [← Option.not_isSome_iff_eq_none, SyntaxNode.part?_isSome_iff]
      exact hname
    obtain ⟨type, htype⟩ := Option.isSome_iff_exists.mp (typePart?_isSome_iff.mpr htype)
    rw [inspect, SyntaxNode.requiredChild, SyntaxNode.requiredChild, SyntaxNode.child?_type, htype,
      SyntaxNode.child?_name, hnone]
    rfl

/-- **Complete methods**: those that offend are reported, each once and in their order. -/
theorem mapM_inspect_complete (rendering : Rendering) (f : SourceFile) :
    ∀ {ns : List SyntaxNode}, (∀ n ∈ ns, Complete n) →
    ∃ found, ns.mapM (inspect rendering f) = .ok found ∧
      List.Forall₂ (Reports rendering f) (ns.filter (Offends f ·)) (found.filterMap id)
  | [], _ => ⟨[], rfl, .nil⟩
  | n :: ns, h => by
    obtain ⟨x?, hx, hreports, hiff⟩ := inspect_complete rendering f (h n List.mem_cons_self)
    obtain ⟨found, hfound, hrest⟩ := mapM_inspect_complete rendering f
      fun m hm => h m (List.mem_cons_of_mem n hm)
    refine ⟨x? :: found, ?_, ?_⟩
    · rw [List.mapM_cons, hx, hfound]
      rfl
    · cases x? with
      | none =>
        have hn : ¬ Offends f n := fun ho => by simpa using hiff.mpr ho
        rw [List.filter_cons_of_neg (by simpa using hn)]
        exact hrest
      | some x =>
        have hn : Offends f n := hiff.mp rfl
        rw [List.filter_cons_of_pos (by simpa using hn)]
        exact .cons (hreports x rfl) hrest

/-- **The first method that lacks a part** is the failure, whatever was found before it. -/
theorem mapM_inspect_lacks (rendering : Rendering) (f : SourceFile)
    {before after : List SyntaxNode} {field : String} (hbefore : ∀ m ∈ before, Complete m)
    (hn : Lacks n field) :
    (before ++ n :: after).mapM (inspect rendering f) =
      .error (.missingField n.kind n.start n.stop field) := by
  obtain ⟨found, hfound, -⟩ := mapM_inspect_complete rendering f hbefore
  rw [List.mapM_append, hfound, List.mapM_cons, inspect_lacks rendering f hn]
  rfl

/-- **The check of a file** whose namespace declarations have names. If a filter matches, nothing
is reported. Otherwise the first method that lacks a part is a failure. If none does, the methods
that offend are reported. -/
theorem execute_file (rendering : Rendering) {f : SourceFile} (hnames : f.tree.NamesNamespaces)
    (filters : List Filter) (s : Session) : ∃ names, f.tree.namespaces = .ok names ∧
      (Suppressed f names filters →
        ((check rendering).execute (.file f) filters).start s = (.ok [], s)) ∧
      (¬ Suppressed f names filters → match (methods f).find? (¬ Complete ·) with
        | some n => ∃ field, Lacks n field ∧
          ((check rendering).execute (.file f) filters).start s =
            (.error (.violation (.missingField n.kind n.start n.stop field)), s)
        | none => ∃ fs, ((check rendering).execute (.file f) filters).start s = (.ok fs, s) ∧
          List.Forall₂ (Reports rendering f) ((methods f).filter (Offends f ·)) fs) := by
  obtain ⟨names, hnames⟩ := SyntaxTree.exists_namespaces hnames
  have hmethods : f.tree.nodesOfKind methodKinds = methods f := f.tree.nodesOfKind_eq methodKinds
  have hfindings : findings rendering f filters =
      if filters.any (matchesFile f names) then .ok []
      else (·.filterMap id) <$> (methods f).mapM (inspect rendering f) := by
    rw [findings, suppressed_eq hnames, hmethods]
    cases filters.any (matchesFile f names) <;> rfl
  have hstart : ((check rendering).execute (.file f) filters).start s =
      ((findings rendering f filters).mapError .violation, s) := by
    change (Reading.ofExcept .violation (findings rendering f filters)).start s = _
    cases findings rendering f filters <;> rfl
  have hiff := any_matchesFile_iff f names filters
  refine ⟨names, hnames, fun hsuppressed => ?_, fun hsuppressed => ?_⟩
  · rw [hstart, hfindings, if_pos (hiff.mpr hsuppressed)]
    rfl
  · rw [hstart, hfindings, if_neg fun hany => hsuppressed (hiff.mp hany)]
    cases hfirst : (methods f).find? (¬ Complete ·) with
    | some n =>
      obtain ⟨hn, before, after, hsplit, hbefore⟩ := List.find?_eq_some_iff_append.mp hfirst
      obtain ⟨field, hlacks⟩ := exists_lacks (of_decide_eq_true hn)
      refine ⟨field, hlacks, ?_⟩
      rw [hsplit, mapM_inspect_lacks rendering f (by simpa using hbefore) hlacks]
      rfl
    | none =>
      have hcomplete : ∀ n ∈ methods f, Complete n := by simpa using hfirst
      obtain ⟨found, hfound, hreports⟩ := mapM_inspect_complete rendering f hcomplete
      refine ⟨found.filterMap id, ?_, hreports⟩
      rw [hfound]
      rfl

/-- A namespace with a method, in which there is a local function with a result. -/
def nestedFile : SourceFile where
  path := "a.cs"
  contents := "namespace N{Task F(){Task GAsync(){}}}"
  root := .node "namespace_declaration" 0 38 none
    [.node "identifier" 10 11 (some "name") [],
      .node "method_declaration" 12 37 none
        [.node "type" 12 16 (some "type") [], .node "identifier" 17 18 (some "name") [],
          .node "local_function_statement" 21 36 none
            [.node "type" 21 25 (some "returns") [], .node "identifier" 26 32 (some "name") []]]]

/-- The outer method is reported and the inner one is not, under a filter that does not match. -/
theorem execute_file_nested :
    let unmatched : Filter := .namespaced ⟨"M", .oneOf {} false [.range 0x4D 0x4D]⟩
    nestedFile.tree.NamesNamespaces ∧ (methods nestedFile).length = 2 ∧
      (∀ n ∈ methods nestedFile, Complete n) ∧ ∃ names fs,
        nestedFile.tree.namespaces = .ok names ∧ ¬ Suppressed nestedFile names [unmatched] ∧
        ((check .plain).execute (.file nestedFile) [unmatched]).start {} = (.ok fs, {}) ∧
        fs.length = 1 := by
  intro unmatched
  have hnames : nestedFile.tree.NamesNamespaces := by decide +kernel
  have hcomplete : ∀ n ∈ methods nestedFile, Complete n := by decide +kernel
  have hone : ((methods nestedFile).filter (Offends nestedFile ·)).length = 1 := by decide +kernel
  obtain ⟨names, hread, -, hreported⟩ := execute_file .plain hnames [unmatched] {}
  have hkept : ¬ Suppressed nestedFile names [unmatched] := by
    rw [← any_matchesFile_iff]
    have hany : (nestedFile.tree.namespaces.toOption.all fun names =>
        !([unmatched].any (matchesFile nestedFile names))) = true := by decide +kernel
    rw [hread] at hany
    change (!([unmatched].any (matchesFile nestedFile names))) = true at hany
    simpa using hany
  have hfirst : (methods nestedFile).find? (¬ Complete ·) = none := by simpa using hcomplete
  have hfound := hreported hkept
  rw [hfirst] at hfound
  obtain ⟨fs, hstart, hreports⟩ := hfound
  exact ⟨hnames, by decide +kernel, hcomplete, names, fs, hread, hkept, hstart,
    hreports.length_eq.symm.trans hone⟩

end AsyncSuffix

end HouseRules
