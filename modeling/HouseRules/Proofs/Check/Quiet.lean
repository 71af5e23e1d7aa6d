import HouseRules.Proofs.Check.Suppression
import HouseRules.Proofs.Text.Search

/-! # Runs without findings

A run of checks without filters is quiet if and only if none of its checks fails, all methods in its
files are named as they should be (`AsyncSuffix.Conforms`) and no commit of its histories adds a
mark (`CommittedTodos.Unmarked`). This is shown for each check in each context first
(`AsyncSuffix.findings_eq_nil_iff`, `CommittedTodos.findings_eq_nil_iff`) and then for the engine,
which runs all of them (`Engine.run_eq_nil_iff`). -/

namespace HouseRules

open Reading

/-! ### All results -/

section MapM

variable {ε α β : Type} {f : α → Except ε β}

/-- The results for the elements of a list are the results in its list of results. -/
theorem mem_of_mapM : ∀ {l : List α} {bs : List β}, l.mapM f = .ok bs →
    (∀ a ∈ l, ∃ b, f a = .ok b) ∧ ∀ b, b ∈ bs ↔ ∃ a ∈ l, f a = .ok b
  | [], bs, h => by
    cases h
    simp
  | a :: l, bs, h => by
    rw [List.mapM_cons] at h
    cases ha : f a with
    | error e =>
      rw [ha] at h
      cases h
    | ok b =>
      rw [ha] at h
      cases hl : l.mapM f with
      | error e =>
        rw [hl] at h
        cases h
      | ok bs' =>
        rw [hl] at h
        cases h
        obtain ⟨hall, hmem⟩ := mem_of_mapM hl
        constructor
        · intro a' ha'
          rcases List.mem_cons.mp ha' with rfl | ha'
          · exact ⟨b, ha⟩
          · exact hall a' ha'
        · intro b'
          rw [List.mem_cons, hmem, List.exists_mem_cons_iff, ha, Except.ok.injEq, eq_comm (a := b')]

/-- There are results for a list if there is one for each of its elements. -/
theorem exists_mapM : ∀ {l : List α}, (∀ a ∈ l, ∃ b, f a = .ok b) → ∃ bs, l.mapM f = .ok bs
  | [], _ => ⟨[], rfl⟩
  | a :: l, h => by
    obtain ⟨b, hb⟩ := h a List.mem_cons_self
    obtain ⟨bs, hbs⟩ := exists_mapM fun a' ha' => h a' (List.mem_cons_of_mem a ha')
    refine ⟨b :: bs, ?_⟩
    rw [List.mapM_cons, hb, hbs]
    rfl

end MapM

/-! ### Source files -/

namespace AsyncSuffix

variable {rendering : Rendering} {f : SourceFile}

/-- Every method and local function of the file whose type mentions a task has the ending. -/
def Conforms (f : SourceFile) : Prop :=
  ∀ n ∈ f.tree.nodes, n.kind ∈ methodKinds → ∀ type name,
    n.child? "type" = some type → n.child? "name" = some name →
    task.toList <:+: (f.tree.textOf type).toList → suffix.toList <:+ (f.tree.textOf name).toList

theorem offends_eq_false_iff {type name : String} :
    offends type name = false ↔ (task.toList <:+: type.toList → suffix.toList <:+ name.toList) := by
  rw [offends, Bool.and_eq_false_imp, Search.occurs_iff]
  simp only [Bool.not_eq_false', List.isSuffixOf_iff_suffix]

/-- A method that can be looked at has a type and a name. -/
theorem inspect_ok {n : SyntaxNode} {found? : Option Finding}
    (h : inspect rendering f n = .ok found?) : ∃ type name, n.child? "type" = some type ∧
      n.child? "name" = some name ∧
      (found? = none ↔ offends (f.tree.textOf type) (f.tree.textOf name) = false) := by
  unfold inspect SyntaxNode.requiredChild at h
  cases htype : n.child? "type" with
  | none =>
    rw [htype] at h
    cases h
  | some type =>
    rw [htype] at h
    cases hname : n.child? "name" with
    | none =>
      rw [hname] at h
      cases h
    | some name =>
      rw [hname] at h
      refine ⟨type, name, rfl, rfl, ?_⟩
      change (if offends (f.tree.textOf type) (f.tree.textOf name) then _ else _) = _ at h
      split at h
      · rename_i hoffends
        cases h
        simp [hoffends]
      · rename_i hoffends
        cases h
        simpa using hoffends

theorem findings_nil_filters (rendering : Rendering) (f : SourceFile) :
    findings rendering f [] =
      (·.filterMap id) <$> (f.tree.nodesOfKind methodKinds).mapM (inspect rendering f) := rfl

/-- **Nothing is found in a file** if and only if it can be looked at and its methods are named as
they should be. -/
theorem findings_eq_nil_iff : findings rendering f [] = .ok [] ↔
    (∃ fs, findings rendering f [] = .ok fs) ∧ Conforms f := by
  rw [findings_nil_filters]
  cases hfound : (f.tree.nodesOfKind methodKinds).mapM (inspect rendering f) with
  | error e =>
    constructor
    · rintro ⟨⟩
    · rintro ⟨⟨fs, ⟨⟩⟩, -⟩
  | ok found =>
    obtain ⟨hall, hmem⟩ := mem_of_mapM hfound
    have hnil : ((·.filterMap id) <$> Except.ok found : Except Violation (List Finding)) = .ok [] ↔
        ∀ n ∈ f.tree.nodesOfKind methodKinds, inspect rendering f n = .ok none := by
      change Except.ok (found.filterMap id) = Except.ok [] ↔ _
      rw [Except.ok.injEq, List.filterMap_eq_nil_iff]
      constructor
      · intro hnone n hn
        obtain ⟨found?, hinspect⟩ := hall n hn
        have hid := hnone found? ((hmem found?).mpr ⟨n, hn, hinspect⟩)
        rwa [show found? = none from hid] at hinspect
      · intro hnone found? hfound?
        obtain ⟨n, hn, hinspect⟩ := (hmem found?).mp hfound?
        rw [hnone n hn] at hinspect
        cases hinspect
        rfl
    have hnodes : ∀ n, n ∈ f.tree.nodesOfKind methodKinds ↔
        n ∈ f.tree.nodes ∧ n.kind ∈ methodKinds := by
      intro n
      rw [SyntaxTree.nodesOfKind, List.mem_filter, List.contains_iff_mem]
    rw [hnil]
    constructor
    · refine fun hnone => ⟨⟨_, rfl⟩, ?_⟩
      intro n hn hkind type name htype hname
      obtain ⟨type', name', htype', hname', hiff⟩ :=
        inspect_ok (hnone n ((hnodes n).mpr ⟨hn, hkind⟩))
      cases htype.symm.trans htype'
      cases hname.symm.trans hname'
      exact offends_eq_false_iff.mp (hiff.mp rfl)
    · rintro ⟨-, hconforms⟩ n hn
      obtain ⟨found?, hinspect⟩ := hall n hn
      obtain ⟨type, name, htype, hname, hiff⟩ := inspect_ok hinspect
      obtain ⟨hmem, hkind⟩ := (hnodes n).mp hn
      rw [hiff.mpr (offends_eq_false_iff.mpr (hconforms n hmem hkind type name htype hname))]
        at hinspect
      exact hinspect

end AsyncSuffix

/-! ### Histories -/

namespace Repository

/-- The commits of the given names that are read one after the other, up to one that cannot be. -/
def commitsUntilFailure (r : Repository) : List String → Session → List Commit
  | [], _ => []
  | id :: ids, s =>
    match (r.commit id).start s with
    | (.ok commit, s) => commit :: commitsUntilFailure r ids s
    | (.error _, _) => []

/-- The commits of the current branch that are read, up to one that cannot be. -/
def yielded (r : Repository) (s : Session) : List Commit :=
  match r.commitIds.start s with
  | (.ok ids, s) => r.commitsUntilFailure ids s
  | (.error _, _) => []

end Repository

namespace CommittedTodos

variable {rs : Repository → Prop} {rendering : Rendering} {h : History}

/-- No line that the commit adds holds a mark. -/
def Unmarked (commit : Commit) : Prop :=
  ∀ f ∈ commit.files, ∀ c ∈ f.changes, ∀ m ∈ marks, ¬ m.toList <:+: c.content.toList

theorem unmarked_iff {commit : Commit} : Unmarked commit ↔
    ∀ f ∈ commit.files, f.changes.filter (holdsMark ·.content) = [] := by
  unfold Unmarked
  simp only [List.filter_eq_nil_iff, holdsMark, List.any_eq_true, Search.occurs_iff, not_exists,
    not_and]

theorem nil_of_gives_mapM {α β : Type} {I : Session → Prop} (hI : ∃ s, I s) {f : α → Reading β}
    {l : List α} (hf : ∀ a ∈ l, Steady I (f a)) {bs : List β} (h : Gives I (l.mapM f) (.ok bs)) :
    bs = [] ↔ l = [] := by
  cases l with
  | nil =>
    cases h.unique hI (gives_pure [])
    simp
  | cons a l =>
    have hl : Steady I (l.mapM f) := Steady.mapM fun b hb => hf b (List.mem_cons_of_mem a hb)
    rw [List.mapM_cons] at h
    obtain ⟨b, -, hrest⟩ := h.bind_inv hI (hf a List.mem_cons_self) fun b =>
      hl.bind fun bs => steady_pure (b :: bs)
    obtain ⟨bs', -, hpure⟩ := hrest.bind_inv hI hl fun bs => steady_pure (b :: bs)
    cases hpure.unique hI (gives_pure _)
    simp

section Unignored

variable (hn : Numbered rs) (hI : ∃ s, Faithful rs s)

/-- What is found in front of the rest of a scan, if nothing is ignored there. -/
theorem found_of_andThen {I : Session → Prop} (hI : ∃ s, I s) {rest : Reading Outcome}
    (hrest : Steady I rest) {P : Prop}
    (hP : ∀ {o}, Gives I rest (.ok o) → ∃ fs, o = .found fs ∧ (fs = [] ↔ P)) {here : List Finding}
    {o : Outcome} (h : Gives I ((Outcome.found here).andThen rest) (.ok o)) :
    ∃ fs, o = .found fs ∧ (fs = [] ↔ here = [] ∧ P) := by
  obtain ⟨o', ho', rfl⟩ := h.map_inv hI hrest
  obtain ⟨there, rfl, hthere⟩ := hP ho'
  refine ⟨here ++ there, rfl, ?_⟩
  rw [List.append_eq_nil_iff, hthere]

include hn hI in
theorem scanFiles_unignored (hh : h.Among rs) {commit : Commit} :
    ∀ {fs : List ChangedFile} {o : Outcome},
      Gives (Faithful rs) (scanFiles rendering h (fun _ => false) commit fs) (.ok o) →
      ∃ found, o = .found found ∧
        (found = [] ↔ ∀ f ∈ fs, f.changes.filter (holdsMark ·.content) = [])
  | [], o, ho => by
    cases ho.unique hI (gives_pure _)
    exact ⟨[], rfl, by simp⟩
  | f :: fs, o, ho => by
    rw [scanFiles_of_not_ignored rfl] at ho
    cases hm : commit.message with
    | none =>
      rw [hm] at ho
      cases ho.unique hI (gives_throw _)
    | some text =>
      rw [hm] at ho
      have hreport : ∀ c ∈ f.changes.filter (holdsMark ·.content),
          Steady (Faithful rs) (report rendering h commit.id text f.path c) := fun c _ =>
        steady_report hn hh commit.id text f.path c
      have hrest : Steady (Faithful rs) (scanFiles rendering h (fun _ => false) commit fs) :=
        steady_scanFiles hn hh fs
      obtain ⟨here, hhere, ho⟩ := ho.bind_inv hI (Steady.mapM hreport) fun here =>
        Outcome.steady_andThen hrest (.found here)
      obtain ⟨found, rfl, hfound⟩ := found_of_andThen hI hrest (scanFiles_unignored hh) ho
      refine ⟨found, rfl, ?_⟩
      rw [hfound, nil_of_gives_mapM hI hreport hhere, List.forall_mem_cons]

include hn in
/-- **The scan finds nothing** if and only if the commits that are read add no mark. -/
theorem scan_unignored {r : Repository} (hr : rs r) :
    ∀ {ids : List String} {s : Session} {o : Outcome}, Faithful rs s →
      Gives (Faithful rs)
        (scan rendering (.repository r) (fun _ => false) (ids.map r.commit)) (.ok o) →
      ∃ found, o = .found found ∧
        (found = [] ↔ ∀ commit ∈ r.commitsUntilFailure ids s, Unmarked commit)
  | [], s, o, hs, ho => by
    cases ho.unique ⟨s, hs⟩ (gives_pure _)
    exact ⟨[], rfl, by simp [Repository.commitsUntilFailure]⟩
  | id :: ids, s, o, hs, ho => by
    have hI : ∃ s, Faithful rs s := ⟨s, hs⟩
    have hamong : (History.repository r).Among rs := hr
    have hrest : Steady (Faithful rs)
        (scan rendering (.repository r) (fun _ => false) (ids.map r.commit)) :=
      steady_scan_commits hn hr ids
    rw [List.map_cons, scan_cons] at ho
    obtain ⟨commit, hcommit, ho⟩ := ho.bind_inv hI (steady_commit hn hr id) fun commit =>
      (steady_scanFiles hn hamong commit.files).bind (Outcome.steady_andThen hrest)
    obtain ⟨p, hp, ho⟩ := ho.bind_inv hI (steady_scanFiles hn hamong commit.files)
      (Outcome.steady_andThen hrest)
    obtain ⟨here, rfl, hhere⟩ := scanFiles_unignored hn hI hamong hp
    obtain ⟨s', hstart, hs'⟩ := hcommit s hs
    obtain ⟨found, rfl, hfound⟩ := found_of_andThen hI hrest (scan_unignored hr hs') ho
    refine ⟨found, rfl, ?_⟩
    rw [hfound, hhere, ← unmarked_iff, Repository.commitsUntilFailure, hstart, List.forall_mem_cons]

end Unignored

/-- **Nothing is found in a history** if and only if it can be scanned and no commit that is read
adds a mark. -/
theorem findings_eq_nil_iff (hn : Numbered rs) {r : Repository} (hr : rs r) {s : Session}
    (hs : Faithful rs s) :
    ((findings rendering (.repository r) []).start s).1 = .ok [] ↔
      (∃ fs, ((findings rendering (.repository r) []).start s).1 = .ok fs) ∧
        ∀ commit ∈ r.yielded s, Unmarked commit := by
  have hI : ∃ s, Faithful rs s := ⟨s, hs⟩
  have hamong : (History.repository r).Among rs := hr
  have hfound : ∀ {fs}, ((findings rendering (.repository r) []).start s).1 = .ok fs →
      (fs = [] ↔ ∀ commit ∈ r.yielded s, Unmarked commit) := by
    intro fs hfs
    have hgives := (steady_findings hn hamong []).gives_of_start hs (Prod.ext hfs rfl)
    rw [findings_repository_eq] at hgives
    obtain ⟨ids, hids, hgives⟩ := hgives.bind_inv hI (steady_commitIds rs r) fun ids =>
      (steady_scan_commits hn hr ids).map _
    obtain ⟨o, ho, rfl⟩ := hgives.map_inv hI (steady_scan_commits hn hr ids)
    obtain ⟨s', hstart, hs'⟩ := hids s hs
    obtain ⟨found, rfl, hiff⟩ := scan_unignored hn hr hs' ho
    rw [Repository.yielded, hstart]
    exact hiff
  constructor
  · intro h
    exact ⟨⟨[], h⟩, (hfound h).mp rfl⟩
  · rintro ⟨⟨fs, hfs⟩, hunmarked⟩
    rw [hfs, (hfound hfs).mpr hunmarked]

end CommittedTodos

/-! ### The engine -/

namespace Engine

/-- **A run finds nothing** if and only if no check finds anything in any context. -/
theorem run_eq_nil_iff {contexts : List Context} {checks : List (Check Reading)}
    (hchecks : ∀ c ∈ checks, IsBuiltin c) (hn : Numbered (repositoriesOf contexts))
    {filters : List Filter} {s : Session} (hs : Faithful (repositoriesOf contexts) s) :
    ((run checks contexts filters).start s).1 = .ok (.ofFindings []) ↔
      ∀ x ∈ contexts, ∀ c ∈ checks, ((c.execute x filters).start s).1 = .ok [] := by
  constructor
  · intro hrun x hx c hc
    obtain ⟨found, hfound, hreport⟩ := exists_found hchecks hn hs hrun
    have hnil : contexts.flatMap (fun x => checks.flatMap fun c => found c x) = [] :=
      (congrArg Report.findings hreport).symm
    obtain ⟨s', hstart, -⟩ := hfound x hx c hc s hs
    rw [hstart, List.flatMap_eq_nil_iff.mp (List.flatMap_eq_nil_iff.mp hnil x hx) c hc]
  · intro hnil
    have hgives : ∀ x ∈ contexts, ∀ c ∈ checks,
        Gives (Faithful (repositoriesOf contexts)) (c.execute x filters) (.ok []) := by
      intro x hx c hc
      exact ((hchecks c hc).steady_execute hn (among_repositoriesOf hx) filters).gives_of_start hs
        (Prod.ext (hnil x hx c hc) rfl)
    have hrun : Gives (Faithful (repositoriesOf contexts)) (run checks contexts filters)
        (.ok (.ofFindings (contexts.flatMap fun _ => checks.flatMap fun _ => []))) :=
      (gives_findings hgives).bind (gives_pure _)
    have hempty : (contexts.flatMap fun _ => checks.flatMap fun _ => ([] : List Finding)) = [] :=
      List.flatMap_eq_nil_iff.mpr fun _ _ => List.flatMap_eq_nil_iff.mpr fun _ _ => rfl
    obtain ⟨s', hstart, -⟩ := hrun s hs
    rw [hstart, hempty]

end Engine

end HouseRules
