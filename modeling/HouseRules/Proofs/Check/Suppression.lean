import HouseRules.Check.Engine
import HouseRules.Check.Registry
import HouseRules.Proofs.Check.Scan

/-! # Filters only suppress

Two runs of the same checks on the same contexts are compared, the second under more filters. What a
check finds in a context is under more filters the same or nothing, so the second report lists some
of the findings of the first, in the same order (`run_suppression`). In which order the filters come
and how often each of them does not matter. -/

namespace HouseRules

open Reading

/-! ### Source files -/

namespace AsyncSuffix

variable {f : SourceFile}

theorem suppressedBy_of_suppressed_false : ∀ {filters : List Filter},
    suppressed f filters = .ok false → ∀ g ∈ filters, suppressedBy f g = .ok false
  | [], _, g, hg => by cases hg
  | g' :: gs, h, g, hg => by
    rw [suppressed] at h
    cases hb : suppressedBy f g' with
    | error e => rw [hb] at h; cases h
    | ok b =>
      rw [hb] at h
      cases b with
      | true => cases h
      | false =>
        rcases List.mem_cons.mp hg with rfl | hg
        · exact hb
        · exact suppressedBy_of_suppressed_false h g hg

theorem exists_suppressedBy : ∀ {filters : List Filter},
    suppressed f filters = .ok true → ∃ g ∈ filters, suppressedBy f g = .ok true
  | [], h => by cases h
  | g :: gs, h => by
    rw [suppressed] at h
    cases hb : suppressedBy f g with
    | error e => rw [hb] at h; cases h
    | ok b =>
      rw [hb] at h
      cases b with
      | true => exact ⟨g, List.mem_cons_self, hb⟩
      | false =>
        obtain ⟨g', hg', hb'⟩ := exists_suppressedBy h
        exact ⟨g', List.mem_cons_of_mem g hg', hb'⟩

/-- A file that filters suppress is suppressed by more filters, if these can be consulted. -/
theorem suppressed_mono {filters filters' : List Filter} (hsub : filters ⊆ filters') {b : Bool}
    (h : suppressed f filters = .ok true) (h' : suppressed f filters' = .ok b) : b = true := by
  obtain ⟨g, hg, hb⟩ := exists_suppressedBy h
  cases b with
  | true => rfl
  | false =>
    rw [suppressedBy_of_suppressed_false h' g (hsub hg)] at hb
    cases hb

theorem findings_inv {rendering : Rendering} {filters : List Filter} {fs : List Finding}
    (h : findings rendering f filters = .ok fs) : ∃ b, suppressed f filters = .ok b ∧
      if b then fs = [] else (·.filterMap id) <$>
        (f.tree.nodesOfKind methodKinds).mapM (inspect rendering f) = .ok fs := by
  rw [findings] at h
  cases hb : suppressed f filters with
  | error e => rw [hb] at h; cases h
  | ok b =>
    refine ⟨b, rfl, ?_⟩
    rw [hb] at h
    cases b with
    | true =>
      cases h
      rfl
    | false => exact h

/-- **More filters keep the findings in a file or discard them.** -/
theorem findings_mono {rendering : Rendering} {filters filters' : List Filter}
    (hsub : filters ⊆ filters') {fs fs' : List Finding}
    (h : findings rendering f filters = .ok fs) (h' : findings rendering f filters' = .ok fs') :
    (fs' = fs ∨ fs' = []) ∧ (filters' ⊆ filters → fs' = fs) := by
  obtain ⟨b, hb, hfs⟩ := findings_inv h
  obtain ⟨b', hb', hfs'⟩ := findings_inv h'
  cases b with
  | true =>
    cases suppressed_mono hsub hb hb'
    rw [if_pos rfl] at hfs hfs'
    rw [hfs, hfs']
    exact ⟨Or.inl rfl, fun _ => rfl⟩
  | false =>
    cases b' with
    | true =>
      refine ⟨Or.inr hfs', fun hsub' => ?_⟩
      cases suppressed_mono hsub' hb' hb
    | false =>
      rw [if_neg (by decide)] at hfs hfs'
      rw [hfs, Except.ok.injEq] at hfs'
      exact ⟨Or.inl hfs'.symm, fun _ => hfs'.symm⟩

end AsyncSuffix

/-! ### Histories -/

namespace CommittedTodos

/-- **More filters keep the findings in a history or discard them.** -/
theorem findings_mono {rs : Repository → Prop} (hn : Numbered rs) (hI : ∃ s, Faithful rs s)
    {h : History} (hh : h.Among rs) {rendering : Rendering} {filters filters' : List Filter}
    (hsub : filters ⊆ filters') {fs fs' : List Finding}
    (hfs : Gives (Faithful rs) (findings rendering h filters) (.ok fs))
    (hfs' : Gives (Faithful rs) (findings rendering h filters') (.ok fs')) :
    (fs' = fs ∨ fs' = []) ∧ (filters' ⊆ filters → fs' = fs) := by
  have hle : ∀ {l l' : List Filter}, l ⊆ l' → ∀ path, l.any (·.matchesPath path) = true →
      l'.any (·.matchesPath path) = true := by
    intro l l' hl path hany
    obtain ⟨g, hg, hm⟩ := List.any_eq_true.mp hany
    exact List.any_eq_true.mpr ⟨g, hl hg, hm⟩
  obtain ⟨o, hcommits, hsteady⟩ := h.exists_gives_commits hn hh
  rw [findings_eq] at hfs hfs'
  cases o with
  | error e => cases hfs.unique hI (hcommits.bind_error _)
  | ok cs =>
    have hcs := hsteady cs rfl
    have hinv : ∀ {ignored : String → Bool} {fs : List Finding},
        Gives (Faithful rs) (h.commits >>= fun cs =>
          Outcome.findings <$> scan rendering h ignored cs) (.ok fs) →
        ∃ p, Gives (Faithful rs) (scan rendering h ignored cs) (.ok p) ∧ fs = p.findings := by
      intro ignored fs hfs
      obtain ⟨o, ho⟩ := (steady_scan hn hh hcs).map Outcome.findings
      cases hfs.unique hI (hcommits.bind ho)
      exact ho.map_inv hI (steady_scan hn hh hcs)
    obtain ⟨p, hp, rfl⟩ := hinv hfs
    obtain ⟨p', hp', rfl⟩ := hinv hfs'
    have hmono := scan_mono hn hh hI (hle hsub) hcs hp hp'
    refine ⟨?_, fun hsub' => ?_⟩
    · rcases hmono with rfl | rfl
      · exact Or.inl rfl
      · exact Or.inr rfl
    · rcases hmono with rfl | rfl
      · rfl
      · rcases scan_mono hn hh hI (hle hsub') hcs hp' hp with rfl | rfl <;> rfl

end CommittedTodos

/-! ### Built-in checks -/

/-- A context whose repository, if it has one, is among the given ones. -/
def Context.Among (rs : Repository → Prop) : Context → Prop
  | .history h => h.Among rs
  | _ => True

/-- A check that comes with the program. -/
def IsBuiltin (c : Check Reading) : Prop :=
  ∃ make ∈ builtinChecks.all, ∃ rendering, c = make rendering

theorem isBuiltin_iff {c : Check Reading} : IsBuiltin c ↔
    ∃ rendering, c = AsyncSuffix.check rendering ∨ c = CommittedTodos.check rendering := by
  simp [IsBuiltin, builtinChecks, Registry.all, exists_or]

section Builtin

variable {rs : Repository → Prop} {c : Check Reading} {x : Context}

theorem IsBuiltin.steady_execute (hc : IsBuiltin c) (hn : Numbered rs) (hx : x.Among rs)
    (filters : List Filter) : Steady (Faithful rs) (c.execute x filters) := by
  obtain ⟨rendering, rfl | rfl⟩ := isBuiltin_iff.mp hc
  · cases x with
    | file f => exact ⟨_, gives_ofExcept _ _⟩
    | directory path => exact steady_pure []
    | history h => exact steady_pure []
  · cases x with
    | file f => exact steady_pure []
    | directory path => exact steady_pure []
    | history h => exact CommittedTodos.steady_findings hn hx filters

/-- **More filters keep what a check finds in a context or discard it.** -/
theorem IsBuiltin.execute_mono (hc : IsBuiltin c) (hn : Numbered rs) (hI : ∃ s, Faithful rs s)
    (hx : x.Among rs) {filters filters' : List Filter} (hsub : filters ⊆ filters')
    {fs fs' : List Finding} (hfs : Gives (Faithful rs) (c.execute x filters) (.ok fs))
    (hfs' : Gives (Faithful rs) (c.execute x filters') (.ok fs')) :
    (fs' = fs ∨ fs' = []) ∧ (filters' ⊆ filters → fs' = fs) := by
  have hnone : Gives (Faithful rs) (pure []) (.ok fs) → Gives (Faithful rs) (pure []) (.ok fs') →
      (fs' = fs ∨ fs' = []) ∧ (filters' ⊆ filters → fs' = fs) := by
    intro hfs hfs'
    cases hfs.unique hI (gives_pure [])
    cases hfs'.unique hI (gives_pure [])
    exact ⟨Or.inl rfl, fun _ => rfl⟩
  obtain ⟨rendering, rfl | rfl⟩ := isBuiltin_iff.mp hc
  · cases x with
    | file f => exact AsyncSuffix.findings_mono hsub (hfs.ofExcept_inv hI) (hfs'.ofExcept_inv hI)
    | directory path => exact hnone hfs hfs'
    | history h => exact hnone hfs hfs'
  · cases x with
    | file f => exact hnone hfs hfs'
    | directory path => exact hnone hfs hfs'
    | history h => exact CommittedTodos.findings_mono hn hI hx hsub hfs hfs'

end Builtin

/-! ### Runs -/

namespace Engine

section Runs

variable {I : Session → Prop} {checks : List (Check Reading)} {contexts : List Context}
  {filters : List Filter}

theorem steady_runOn {x : Context} : ∀ {checks : List (Check Reading)},
    (∀ c ∈ checks, Steady I (c.execute x filters)) → Steady I (runOn checks filters x)
  | [], _ => steady_pure []
  | c :: cs, h => by
    have ih := steady_runOn fun c' hc' => h c' (List.mem_cons_of_mem c hc')
    exact (h c List.mem_cons_self).bind fun here => ih.bind fun there => steady_pure (here ++ there)

theorem steady_findings : ∀ {contexts : List Context},
    (∀ x ∈ contexts, ∀ c ∈ checks, Steady I (c.execute x filters)) →
    Steady I (findings checks filters contexts)
  | [], _ => steady_pure []
  | x :: xs, h => by
    have ih := steady_findings fun x' hx' => h x' (List.mem_cons_of_mem x hx')
    exact (steady_runOn (h x List.mem_cons_self)).bind fun here =>
      ih.bind fun there => steady_pure (here ++ there)

theorem gives_runOn {x : Context} {found : Check Reading → List Finding} :
    ∀ {checks : List (Check Reading)},
      (∀ c ∈ checks, Gives I (c.execute x filters) (.ok (found c))) →
      Gives I (runOn checks filters x) (.ok (checks.flatMap found))
  | [], _ => gives_pure []
  | c :: cs, h => by
    have ih := gives_runOn fun c' hc' => h c' (List.mem_cons_of_mem c hc')
    exact (h c List.mem_cons_self).bind (ih.bind (gives_pure _))

/-- The findings of a run are those of its checks in its contexts. -/
theorem gives_findings {found : Check Reading → Context → List Finding} :
    ∀ {contexts : List Context},
      (∀ x ∈ contexts, ∀ c ∈ checks, Gives I (c.execute x filters) (.ok (found c x))) →
      Gives I (findings checks filters contexts)
        (.ok (contexts.flatMap fun x => checks.flatMap fun c => found c x))
  | [], _ => gives_pure []
  | x :: xs, h => by
    have ih := gives_findings fun x' hx' => h x' (List.mem_cons_of_mem x hx')
    exact (gives_runOn (h x List.mem_cons_self)).bind (ih.bind (gives_pure _))

theorem execute_of_runOn (hI : ∃ s, I s) {x : Context} : ∀ {checks : List (Check Reading)},
    (∀ c ∈ checks, Steady I (c.execute x filters)) → ∀ {fs : List Finding},
    Gives I (runOn checks filters x) (.ok fs) →
    ∀ c ∈ checks, ∃ fs, Gives I (c.execute x filters) (.ok fs)
  | [], _, _, _, c, hc => by cases hc
  | c' :: cs, h, fs, hfs, c, hc => by
    have hcs : ∀ c ∈ cs, Steady I (c.execute x filters) := fun c hc =>
      h c (List.mem_cons_of_mem c' hc)
    obtain ⟨here, hhere, hrest⟩ := hfs.bind_inv hI (h c' List.mem_cons_self) fun here =>
      (steady_runOn hcs).bind fun there => steady_pure (here ++ there)
    rcases List.mem_cons.mp hc with rfl | hc
    · exact ⟨here, hhere⟩
    · obtain ⟨there, hthere, -⟩ := hrest.bind_inv hI (steady_runOn hcs) fun there =>
        steady_pure (here ++ there)
      exact execute_of_runOn hI hcs hthere c hc

/-- If a run completes, so does each check in each context. -/
theorem execute_of_findings (hI : ∃ s, I s) : ∀ {contexts : List Context},
    (∀ x ∈ contexts, ∀ c ∈ checks, Steady I (c.execute x filters)) → ∀ {fs : List Finding},
    Gives I (findings checks filters contexts) (.ok fs) →
    ∀ x ∈ contexts, ∀ c ∈ checks, ∃ fs, Gives I (c.execute x filters) (.ok fs)
  | [], _, _, _, x, hx => by cases hx
  | x' :: xs, h, fs, hfs, x, hx => by
    have hxs : ∀ x ∈ xs, ∀ c ∈ checks, Steady I (c.execute x filters) := fun x hx =>
      h x (List.mem_cons_of_mem x' hx)
    obtain ⟨here, hhere, hrest⟩ := hfs.bind_inv hI (steady_runOn (h x' List.mem_cons_self))
      fun here => (steady_findings hxs).bind fun there => steady_pure (here ++ there)
    rcases List.mem_cons.mp hx with rfl | hx
    · exact execute_of_runOn hI (h x List.mem_cons_self) hhere
    · obtain ⟨there, hthere, -⟩ := hrest.bind_inv hI (steady_findings hxs) fun there =>
        steady_pure (here ++ there)
      exact execute_of_findings hI hxs hthere x hx

end Runs

/-! ### Two runs -/

/-- The repositories among contexts. -/
def repositoriesOf (contexts : List Context) (r : Repository) : Prop :=
  .history (.repository r) ∈ contexts

theorem among_repositoriesOf {contexts : List Context} {x : Context} (hx : x ∈ contexts) :
    x.Among (repositoriesOf contexts) := by
  cases x with
  | file f => trivial
  | directory path => trivial
  | history h =>
    cases h with
    | repository r => exact hx
    | memory commits blobs => trivial

theorem flatMap_sublist {α β : Type} {f g : α → List β} : ∀ {l : List α},
    (∀ x ∈ l, (g x).Sublist (f x)) → (l.flatMap g).Sublist (l.flatMap f)
  | [], _ => List.Sublist.refl []
  | x :: l, h => by
    rw [List.flatMap_cons, List.flatMap_cons]
    exact (h x List.mem_cons_self).append
      (flatMap_sublist fun y hy => h y (List.mem_cons_of_mem x hy))

/-- A completed run reports what each check finds in each context. -/
theorem exists_found {contexts : List Context} {checks : List (Check Reading)}
    (hchecks : ∀ c ∈ checks, IsBuiltin c) (hn : Numbered (repositoriesOf contexts))
    {filters : List Filter} {s : Session} (hs : Faithful (repositoriesOf contexts) s)
    {report : Report} (hrun : ((run checks contexts filters).start s).1 = .ok report) :
    ∃ found : Check Reading → Context → List Finding,
      (∀ x ∈ contexts, ∀ c ∈ checks,
        Gives (Faithful (repositoriesOf contexts)) (c.execute x filters) (.ok (found c x))) ∧
      report = .ofFindings (contexts.flatMap fun x => checks.flatMap fun c => found c x) := by
  have hI : ∃ s, Faithful (repositoriesOf contexts) s := ⟨s, hs⟩
  have hsteady : ∀ x ∈ contexts, ∀ c ∈ checks,
      Steady (Faithful (repositoriesOf contexts)) (c.execute x filters) := fun x hx c hc =>
    (hchecks c hc).steady_execute hn (among_repositoriesOf hx) filters
  have hgives : Gives (Faithful (repositoriesOf contexts)) (run checks contexts filters)
      (.ok report) :=
    ((steady_findings hsteady).bind fun fs => steady_pure _).gives_of_start hs (Prod.ext hrun rfl)
  obtain ⟨fs, hfs, -⟩ := hgives.bind_inv hI (steady_findings hsteady) fun fs => steady_pure _
  have hall : ∀ c x, ∃ fs, x ∈ contexts → c ∈ checks →
      Gives (Faithful (repositoriesOf contexts)) (c.execute x filters) (.ok fs) := by
    intro c x
    by_cases h : x ∈ contexts ∧ c ∈ checks
    · obtain ⟨fs, h'⟩ := execute_of_findings hI hsteady hfs x h.1 c h.2
      exact ⟨fs, fun _ _ => h'⟩
    · exact ⟨[], fun hx hc => absurd ⟨hx, hc⟩ h⟩
  choose found hfound using hall
  have hfound' : ∀ x ∈ contexts, ∀ c ∈ checks,
      Gives (Faithful (repositoriesOf contexts)) (c.execute x filters) (.ok (found c x)) :=
    fun x hx c hc => hfound c x hx hc
  refine ⟨found, hfound', ?_⟩
  exact Except.ok.inj (hgives.unique hI ((gives_findings hfound').bind (gives_pure _)))

/-- **Filters only suppress, and only as a set.** Two runs of built-in checks on the same contexts
complete, and every filter of the first is one of the second. Then what a check finds in a context
is in the second run the same as in the first or nothing, and the findings of the second report
are some of the first, in their order. If both runs have the same filters, in whatever order and
however often, the reports are the same. -/
theorem run_suppression {contexts : List Context} {checks : List (Check Reading)}
    (hchecks : ∀ c ∈ checks, IsBuiltin c) (hn : Numbered (repositoriesOf contexts))
    {filters filters' : List Filter} (hsub : filters ⊆ filters') {s s' : Session}
    (hs : Faithful (repositoriesOf contexts) s) (hs' : Faithful (repositoriesOf contexts) s')
    {report report' : Report} (hrun : ((run checks contexts filters).start s).1 = .ok report)
    (hrun' : ((run checks contexts filters').start s').1 = .ok report') :
    (∃ found found' : Check Reading → Context → List Finding,
      (∀ x ∈ contexts, ∀ c ∈ checks,
        Gives (Faithful (repositoriesOf contexts)) (c.execute x filters) (.ok (found c x)) ∧
        Gives (Faithful (repositoriesOf contexts)) (c.execute x filters') (.ok (found' c x)) ∧
        (found' c x = found c x ∨ found' c x = [])) ∧
      report.findings = contexts.flatMap (fun x => checks.flatMap fun c => found c x) ∧
      report'.findings = contexts.flatMap fun x => checks.flatMap fun c => found' c x) ∧
    report'.findings.Sublist report.findings ∧
    (filters' ⊆ filters → report' = report) := by
  obtain ⟨found, hfound, rfl⟩ := exists_found hchecks hn hs hrun
  obtain ⟨found', hfound', rfl⟩ := exists_found hchecks hn hs' hrun'
  have hmono : ∀ x ∈ contexts, ∀ c ∈ checks, (found' c x = found c x ∨ found' c x = []) ∧
      (filters' ⊆ filters → found' c x = found c x) := fun x hx c hc =>
    (hchecks c hc).execute_mono hn ⟨s, hs⟩ (among_repositoriesOf hx) hsub (hfound x hx c hc)
      (hfound' x hx c hc)
  refine ⟨⟨found, found', fun x hx c hc => ⟨hfound x hx c hc, hfound' x hx c hc,
    (hmono x hx c hc).1⟩, rfl, rfl⟩, ?_, fun hsub' => ?_⟩
  · refine flatMap_sublist fun x hx => flatMap_sublist fun c hc => ?_
    rcases (hmono x hx c hc).1 with h | h
    · rw [h]
    · rw [h]
      exact List.nil_sublist _
  · refine congrArg Report.ofFindings (List.flatMap_congr fun x hx => ?_)
    exact List.flatMap_congr fun c hc => (hmono x hx c hc).2 hsub'

/-- A file with a method. -/
def sampleFile : SourceFile where
  path := "a.cs"
  contents := "Task F"
  root := .node "method_declaration" 0 6 none
    [.node "type" 0 4 (some "type") [], .node "name" 5 6 (some "name") []]

/-- A repository with a commit that adds a mark to a file. -/
def sampleRepository : Repository where
  git := Recording.git
    { top := []
      commits := [⟨"c", Bytes.ofAscii "m\n", Bytes.ofAscii
        "diff --git a/b.cs b/b.cs\nindex 0..1\n--- a/b.cs\n+++ b/b.cs\n@@ -0,0 +1 @@\n+// TODO\n"⟩]
      blobs := [("1", Bytes.ofAscii "// TODO\n")] }
  path := Path.ofString "/r"

/-- The file and the repository. -/
def sampleContexts : List Context := [.file sampleFile, .history (.repository sampleRepository)]

/-- Both checks. -/
def sampleChecks : List (Check Reading) := [AsyncSuffix.check .plain, CommittedTodos.check .plain]

/-- A filter for the paths that hold an `a`. -/
def sampleFilter : Filter := .path ⟨"a", .oneOf {} false [.range 0x61 0x61]⟩

/-- Without filters there is a finding in each context, and the filter suppresses the first. -/
theorem run_suppression_sample : ∃ report report',
    ((run sampleChecks sampleContexts []).start {}).1 = .ok report ∧
    ((run sampleChecks sampleContexts [sampleFilter]).start {}).1 = .ok report' ∧
    report.findings.map (·.path) = ["a.cs", "b.cs"] ∧ report'.findings.map (·.path) = ["b.cs"] ∧
    report'.findings.Sublist report.findings := by
  have hreport : ∀ (filters : List Filter) (paths : List String),
      ((run sampleChecks sampleContexts filters).start {}).1.toOption.map
        (·.findings.map (·.path)) = some paths →
      ∃ report, ((run sampleChecks sampleContexts filters).start {}).1 = .ok report ∧
        report.findings.map (·.path) = paths := by
    intro filters paths h
    cases hr : ((run sampleChecks sampleContexts filters).start {}).1 with
    | error e => rw [hr] at h; cases h
    | ok report => rw [hr] at h; exact ⟨report, rfl, Option.some.inj h⟩
  obtain ⟨report, hrun, hpaths⟩ := hreport [] ["a.cs", "b.cs"] (by decide +kernel)
  obtain ⟨report', hrun', hpaths'⟩ := hreport [sampleFilter] ["b.cs"] (by decide +kernel)
  have hchecks : ∀ c ∈ sampleChecks, IsBuiltin c := by
    intro c hc
    simp only [sampleChecks, List.mem_cons, List.not_mem_nil, or_false] at hc
    exact isBuiltin_iff.mpr ⟨.plain, hc⟩
  have hnumbered : Numbered (repositoriesOf sampleContexts) := by
    have hone : ∀ r, repositoriesOf sampleContexts r → r = sampleRepository := by
      intro r hr
      simpa [repositoriesOf, sampleContexts] using hr
    intro r r' hr hr' _
    rw [hone r hr, hone r' hr']
  exact ⟨report, report', hrun, hrun', hpaths, hpaths', (run_suppression hchecks hnumbered
    (List.nil_subset _) (faithful_default _) (faithful_default _) hrun hrun').2.1⟩

end Engine

end HouseRules
