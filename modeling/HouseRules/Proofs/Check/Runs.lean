import HouseRules.Proofs.Check.Summary
import HouseRules.Proofs.Check.Suppression

/-! # Runs of the engine

A run executes jobs, each a check with a context: all checks for the first context, then all checks
for the next. It executes them one after the other, up to the first that fails, and reports what
all of them found (`run_eq`, `exists_executes`).

Where the outcome of a job does not depend on what was done before, runs have nothing to do with
each other (`runAll_eq`), and other orders of the checks and the contexts lead to the same findings
in another order (`foundBy_perm`). -/

namespace HouseRules.Engine

/-! ### Jobs -/

section Jobs

variable {m : Type → Type}

/-- A check with the context that it looks at. -/
structure Job (m : Type → Type) where
  /-- The check. -/
  check : Check m
  /-- The context. -/
  context : Context

/-- Executes the job. -/
def Job.execute (filters : List Filter) (j : Job m) : m (List Finding) :=
  j.check.execute j.context filters

/-- The jobs of a run: context by context, and for each of them the checks in their order. -/
def jobs (checks : List (Check m)) (contexts : List Context) : List (Job m) :=
  contexts.flatMap fun x => checks.map fun c => ⟨c, x⟩

theorem mem_jobs {checks : List (Check m)} {contexts : List Context} {j : Job m} :
    j ∈ jobs checks contexts ↔ j.check ∈ checks ∧ j.context ∈ contexts := by
  rw [jobs, List.mem_flatMap]
  constructor
  · rintro ⟨x, hx, hj⟩
    obtain ⟨c, hc, rfl⟩ := List.mem_map.mp hj
    exact ⟨hc, hx⟩
  · rintro ⟨hc, hx⟩
    exact ⟨j.context, hx, List.mem_map.mpr ⟨j.check, hc, rfl⟩⟩

theorem jobs_perm {checks checks' : List (Check m)} {contexts contexts' : List Context}
    (hchecks : checks.Perm checks') (hcontexts : contexts.Perm contexts') :
    (jobs checks contexts).Perm (jobs checks' contexts') :=
  hcontexts.flatMap fun _ _ => hchecks.map _

variable [Monad m]

/-- Executes jobs, each of them once and in their order, and joins what they find. -/
def executeAll (filters : List Filter) (js : List (Job m)) : m (List Finding) :=
  List.flatten <$> js.mapM (Job.execute filters)

variable [LawfulMonad m] {checks : List (Check m)} {filters : List Filter}

theorem executeAll_nil : executeAll filters ([] : List (Job m)) = pure [] := by
  simp [executeAll]

theorem executeAll_cons (j : Job m) (js : List (Job m)) : executeAll filters (j :: js) =
    (j.execute filters >>= fun fs => (fs ++ ·) <$> executeAll filters js) := by
  simp [executeAll]

theorem executeAll_append (js js' : List (Job m)) : executeAll filters (js ++ js') =
    (executeAll filters js >>= fun fs => (fs ++ ·) <$> executeAll filters js') := by
  simp [executeAll]

theorem runOn_eq (x : Context) : ∀ checks : List (Check m),
    runOn checks filters x = executeAll filters (checks.map fun c => ⟨c, x⟩)
  | [] => executeAll_nil.symm
  | c :: cs => by
    rw [runOn, runOn_eq x cs, List.map_cons, executeAll_cons]
    simp only [map_eq_pure_bind]
    rfl

theorem findings_eq : ∀ contexts : List Context,
    findings checks filters contexts = executeAll filters (jobs checks contexts)
  | [] => executeAll_nil.symm
  | x :: xs => by
    have hjobs : jobs checks (x :: xs) = (checks.map fun c => ⟨c, x⟩) ++ jobs checks xs :=
      List.flatMap_cons
    rw [findings, runOn_eq, findings_eq xs, hjobs, executeAll_append]
    simp only [map_eq_pure_bind]

/-- **A run executes its jobs** and reports what they find. -/
theorem run_eq (contexts : List Context) : run checks contexts filters =
    Report.ofFindings <$> executeAll filters (jobs checks contexts) := by
  rw [run, findings_eq, map_eq_pure_bind]

/-- **A run on more contexts** goes on with these. -/
theorem run_append (contexts more : List Context) : run checks (contexts ++ more) filters = (do
    let first ← run checks contexts filters
    let second ← run checks more filters
    return Report.ofFindings (first.findings ++ second.findings)) := by
  have hjobs : jobs checks (contexts ++ more) = jobs checks contexts ++ jobs checks more :=
    List.flatMap_append
  rw [run_eq, run_eq, run_eq, hjobs, executeAll_append]
  simp [Report.ofFindings]

end Jobs

/-! ### Executions -/

/-- Work that may fail and that passes a state on, also when it fails. -/
abbrev Work (ε σ : Type) := ExceptT ε (StateM σ)

section Executions

variable {ε σ α β : Type}

/-- The outcome of work and the state after it. -/
def Work.start (w : Work ε σ α) (s : σ) : Except ε α × σ := (ExceptT.run w).run s

theorem Work.start_bind (w : Work ε σ α) (f : α → Work ε σ β) (s : σ) :
    Work.start (w >>= f) s = match w.start s with
      | (.ok a, t) => Work.start (f a) t
      | (.error e, t) => (.error e, t) := by
  simp only [start]
  rw [ExceptT.run_bind, StateT.run_bind]
  rcases (ExceptT.run w).run s with ⟨_ | _, _⟩ <;> rfl

theorem Work.start_map (f : α → β) (w : Work ε σ α) (s : σ) :
    Work.start (f <$> w) s = ((w.start s).1.map f, (w.start s).2) := by
  rw [map_eq_pure_bind, start_bind]
  rcases w.start s with ⟨_ | _, _⟩ <;> rfl

/-- From the state `s` the jobs have been executed, one after the other, with the given outcome and
the given state in the end. All but the last of them succeeded. -/
inductive Executes (filters : List Filter) :
    List (Job (Work ε σ)) → σ → Except ε (List Finding) → σ → Prop where
  /-- No job. -/
  | done (s : σ) : Executes filters [] s (.ok []) s
  /-- A job that fails is the last. -/
  | fail {j : Job (Work ε σ)} {s t : σ} {e : ε} :
    (j.execute filters).start s = (.error e, t) → Executes filters [j] s (.error e) t
  /-- A job that succeeds, and the jobs that follow. -/
  | next {j : Job (Work ε σ)} {js : List (Job (Work ε σ))} {s t u : σ} {fs : List Finding}
    {o : Except ε (List Finding)} :
    (j.execute filters).start s = (.ok fs, t) → Executes filters js t o u →
    Executes filters (j :: js) s (o.map (fs ++ ·)) u

/-- **Jobs are executed up to the first that fails**, and all of them if none does. -/
theorem exists_executes (filters : List Filter) : ∀ (js : List (Job (Work ε σ))) (s : σ),
    ∃ executed rest o t, js = executed ++ rest ∧ Executes filters executed s o t ∧
      (executeAll filters js).start s = (o, t) ∧ (rest = [] ∨ ∃ e, o = .error e)
  | [], s => ⟨[], [], .ok [], s, rfl, .done s, rfl, Or.inl rfl⟩
  | j :: js, s => by
    rw [executeAll_cons, Work.start_bind]
    rcases hstart : (j.execute filters).start s with ⟨e | fs, t⟩
    · exact ⟨[j], js, .error e, t, rfl, .fail hstart, rfl, Or.inr ⟨e, rfl⟩⟩
    · obtain ⟨executed, rest, o, u, rfl, hexecutes, hrun, hrest⟩ := exists_executes filters js t
      refine ⟨j :: executed, rest, o.map (fs ++ ·), u, rfl, .next hstart hexecutes, ?_, ?_⟩
      · simp only [Work.start_map, hrun]
      · rcases hrest with hrest | ⟨e, rfl⟩
        · exact Or.inl hrest
        · exact Or.inr ⟨e, rfl⟩

end Executions

/-! ### Runs that have nothing to do with each other -/

section Regular

variable {ε σ : Type} {I : σ → Prop} {checks : List (Check (Work ε σ))} {filters : List Filter}

/-- What checks find, or why they fail. -/
abbrev Findings (ε σ : Type) :=
  Check (Work ε σ) → Context → List Filter → Except ε (List Finding)

/-- From every state with the property `I`, which is kept, the outcome of each job is the given
one: it does not depend on what was done before. -/
def Regular (I : σ → Prop) (found : Findings ε σ) (checks : List (Check (Work ε σ)))
    (contexts : List Context) (filters : List Filter) : Prop :=
  ∀ c ∈ checks, ∀ x ∈ contexts, ∀ s, I s →
    ∃ t, (c.execute x filters).start s = (found c x filters, t) ∧ I t

/-- The outcome of a run, from the outcomes of its jobs. -/
def foundBy (found : Findings ε σ) (filters : List Filter) (js : List (Job (Work ε σ))) :
    Except ε (List Finding) :=
  List.flatten <$> js.mapM fun j => found j.check j.context filters

theorem start_executeAll {found : Findings ε σ} : ∀ {js : List (Job (Work ε σ))},
    (∀ j ∈ js, ∀ s, I s →
      ∃ t, (j.execute filters).start s = (found j.check j.context filters, t) ∧ I t) →
    ∀ s, I s → ∃ t, (executeAll filters js).start s = (foundBy found filters js, t) ∧ I t
  | [], _, s, hs => ⟨s, rfl, hs⟩
  | j :: js, h, s, hs => by
    obtain ⟨t, hstart, ht⟩ := h j List.mem_cons_self s hs
    have ih := start_executeAll fun j' hj' => h j' (List.mem_cons_of_mem j hj')
    rw [executeAll_cons, Work.start_bind, hstart, foundBy, List.mapM_cons]
    cases found j.check j.context filters with
    | error e => exact ⟨t, rfl, ht⟩
    | ok fs =>
      obtain ⟨u, hrest, hu⟩ := ih t ht
      refine ⟨u, ?_, hu⟩
      simp only [Work.start_map, hrest, foundBy]
      cases js.mapM fun j => found j.check j.context filters <;> rfl

theorem Regular.start_run {found : Findings ε σ} {contexts : List Context}
    (h : Regular I found checks contexts filters) {s : σ} (hs : I s) :
    ∃ t, (run checks contexts filters).start s =
      ((foundBy found filters (jobs checks contexts)).map Report.ofFindings, t) ∧ I t := by
  have hjobs : ∀ j ∈ jobs checks contexts, ∀ s, I s →
      ∃ t, (j.execute filters).start s = (found j.check j.context filters, t) ∧ I t := by
    intro j hj
    obtain ⟨hc, hx⟩ := mem_jobs.mp hj
    exact h j.check hc j.context hx
  obtain ⟨t, hstart, ht⟩ := start_executeAll hjobs s hs
  refine ⟨t, ?_, ht⟩
  rw [run_eq, Work.start_map, hstart]

/-- Runs of one engine, one after the other, also behind a run that failed. -/
def runAll (checks : List (Check (Work ε σ))) :
    List (List Context × List Filter) → σ → List (Except ε Report)
  | [], _ => []
  | (contexts, filters) :: rest, s =>
    let (o, t) := (run checks contexts filters).start s
    o :: runAll checks rest t

/-- **Later runs are not affected**: each of them has the outcome that it would have alone. -/
theorem runAll_eq {found : Findings ε σ} : ∀ {requests : List (List Context × List Filter)},
    (∀ q ∈ requests, Regular I found checks q.1 q.2) → ∀ {s s₀ : σ}, I s → I s₀ →
    runAll checks requests s = requests.map fun q => ((run checks q.1 q.2).start s₀).1
  | [], _, _, _, _, _ => rfl
  | (contexts, filters) :: rest, h, s, s₀, hs, hs₀ => by
    have hfirst := h (contexts, filters) List.mem_cons_self
    obtain ⟨t, hrun, ht⟩ := hfirst.start_run hs
    obtain ⟨t₀, hrun₀, -⟩ := hfirst.start_run hs₀
    have ih := runAll_eq (fun q hq => h q (List.mem_cons_of_mem _ hq)) ht hs₀
    simp only [runAll, List.map_cons]
    rw [hrun, hrun₀, ih]

/-- **Jobs in another order** find the same in another order. -/
theorem foundBy_perm {found : Findings ε σ} {js js' : List (Job (Work ε σ))} (hperm : js.Perm js')
    (hok : ∀ j ∈ js, ∃ fs, found j.check j.context filters = .ok fs) :
    ∃ fs fs', foundBy found filters js = .ok fs ∧ foundBy found filters js' = .ok fs' ∧
      fs.Perm fs' := by
  have hall : ∀ {js : List (Job (Work ε σ))},
      (∀ j ∈ js, ∃ fs, found j.check j.context filters = .ok fs) →
      foundBy found filters js =
        .ok (js.flatMap fun j => (found j.check j.context filters).toOption.getD []) := by
    intro js
    induction js with
    | nil => exact fun _ => rfl
    | cons j js ih =>
      intro h
      obtain ⟨fs, hfs⟩ := h j List.mem_cons_self
      have hrest := ih fun j' hj' => h j' (List.mem_cons_of_mem j hj')
      rw [foundBy] at hrest ⊢
      rw [List.mapM_cons, hfs, List.flatMap_cons, hfs]
      cases hmapM : js.mapM fun j => found j.check j.context filters with
      | error e =>
        rw [hmapM] at hrest
        cases hrest
      | ok fss =>
        rw [hmapM] at hrest
        exact congrArg (Except.ok ∘ (fs ++ ·)) (Except.ok.inj hrest)
  have hok' : ∀ j ∈ js', ∃ fs, found j.check j.context filters = .ok fs := fun j hj =>
    hok j (hperm.mem_iff.mpr hj)
  exact ⟨_, _, hall hok, hall hok', hperm.flatMap fun _ _ => List.Perm.refl _⟩

end Regular

/-! ### Runs -/

section Runs

variable {ε σ : Type}

/-- **The engine loses, repeats and reorders nothing.** A run goes through the jobs, context by
context and for each the checks in their order, executes them one after the other up to the first
that fails, and reports what all of them found, or the error of the one that failed. A run on more
contexts goes on with these. If the outcome of each job does not depend on what was done before,
then each of several runs has the outcome that it would have alone, and with the checks and the
contexts in another order a run without errors finds the same in another order. Each report is
summed up right. -/
theorem run_spec (checks : List (Check (Work ε σ))) (contexts : List Context)
    (filters : List Filter) :
    (∀ s, ∃ executed rest o t, jobs checks contexts = executed ++ rest ∧
      Executes filters executed s o t ∧
      (run checks contexts filters).start s = (o.map Report.ofFindings, t) ∧
      (rest = [] ∨ ∃ e, o = .error e)) ∧
    (∀ more, run checks (contexts ++ more) filters = (do
      let first ← run checks contexts filters
      let second ← run checks more filters
      return Report.ofFindings (first.findings ++ second.findings))) ∧
    (∀ (I : σ → Prop) found (requests : List (List Context × List Filter)),
      (∀ q ∈ requests, Regular I found checks q.1 q.2) → ∀ s, I s →
      runAll checks requests s = requests.map fun q => ((run checks q.1 q.2).start s).1) ∧
    (∀ (I : σ → Prop) found checks' contexts', Regular I found checks contexts filters →
      (∀ c ∈ checks, ∀ x ∈ contexts, ∃ fs, found c x filters = .ok fs) →
      checks.Perm checks' → contexts.Perm contexts' → ∀ s, I s → ∃ report report',
        ((run checks contexts filters).start s).1 = .ok report ∧
        ((run checks' contexts' filters).start s).1 = .ok report' ∧
        report.findings.Perm report'.findings) ∧
    ∀ s report, ((run checks contexts filters).start s).1 = .ok report → report.Summarized := by
  have hexecutes : ∀ s, ∃ executed rest o t, jobs checks contexts = executed ++ rest ∧
      Executes filters executed s o t ∧
      (run checks contexts filters).start s = (o.map Report.ofFindings, t) ∧
      (rest = [] ∨ ∃ e, o = .error e) := by
    intro s
    obtain ⟨executed, rest, o, t, hjobs, hexecutes, hstart, hrest⟩ :=
      exists_executes filters (jobs checks contexts) s
    refine ⟨executed, rest, o, t, hjobs, hexecutes, ?_, hrest⟩
    rw [run_eq, Work.start_map, hstart]
  refine ⟨hexecutes, run_append contexts, ?_, ?_, ?_⟩
  · intro I found requests hregular s hs
    exact runAll_eq hregular hs hs
  · intro I found checks' contexts' hregular hok hchecks hcontexts s hs
    have hregular' : Regular I found checks' contexts' filters := fun c hc x hx =>
      hregular c (hchecks.mem_iff.mpr hc) x (hcontexts.mem_iff.mpr hx)
    have hjobs : ∀ j ∈ jobs checks contexts, ∃ fs, found j.check j.context filters = .ok fs := by
      intro j hj
      obtain ⟨hc, hx⟩ := mem_jobs.mp hj
      exact hok j.check hc j.context hx
    obtain ⟨fs, fs', hfs, hfs', hperm⟩ := foundBy_perm (jobs_perm hchecks hcontexts) hjobs
    obtain ⟨t, hrun, -⟩ := hregular.start_run hs
    obtain ⟨t', hrun', -⟩ := hregular'.start_run hs
    refine ⟨.ofFindings fs, .ofFindings fs', ?_, ?_, hperm⟩
    · rw [hrun, hfs]
      rfl
    · rw [hrun', hfs']
      rfl
  · intro s report hreport
    obtain ⟨executed, rest, o, t, -, -, hstart, -⟩ := hexecutes s
    rw [hstart] at hreport
    cases o with
    | error e => cases hreport
    | ok fs =>
      cases hreport
      exact summarized_ofFindings fs

end Runs

/-- What checks find in a new session. -/
def foundAtFirst : Findings Failure Session := fun c x filters =>
  (Reading.start (c.execute x filters) {}).1

/-- The jobs of the checks that come with the program do not depend on what was done before. -/
theorem regular_of_isBuiltin {checks : List (Check Reading)} (hchecks : ∀ c ∈ checks, IsBuiltin c)
    {contexts : List Context} (hn : Numbered (repositoriesOf contexts)) (filters : List Filter) :
    Regular (Faithful (repositoriesOf contexts)) foundAtFirst checks contexts filters := by
  intro c hc x hx s hs
  obtain ⟨o, ho⟩ := (hchecks c hc).steady_execute hn (among_repositoriesOf hx) filters
  obtain ⟨t₀, hstart₀, -⟩ := ho {} (faithful_default _)
  obtain ⟨t, hstart, ht⟩ := ho s hs
  have hfound : foundAtFirst c x filters = o := congrArg Prod.fst hstart₀
  refine ⟨t, ?_, ht⟩
  rw [hfound]
  exact hstart

/-- Two checks on a file and a repository, in two orders, and two runs one after the other. -/
theorem run_spec_sample : ∃ report report',
    ((run sampleChecks sampleContexts []).start {}).1 = .ok report ∧
    ((run sampleChecks.reverse sampleContexts.reverse []).start {}).1 = .ok report' ∧
    report.findings.Perm report'.findings ∧ report.Summarized ∧
    runAll sampleChecks [(sampleContexts, []), (sampleContexts, [sampleFilter])] {} =
      [.ok report, ((run sampleChecks sampleContexts [sampleFilter]).start {}).1] := by
  have hchecks : ∀ c ∈ sampleChecks, IsBuiltin c := by
    intro c hc
    simp only [sampleChecks, List.mem_cons, List.not_mem_nil, or_false] at hc
    exact isBuiltin_iff.mpr ⟨.plain, hc⟩
  have hnumbered : Numbered (repositoriesOf sampleContexts) := by
    have hone : ∀ r, repositoriesOf sampleContexts r → r = sampleRepository := by
      intro r hr
      simpa [repositoriesOf, sampleContexts] using hr
    intro r r' hr hr' _
    rw [hone r hr, hone r' hr']
  have hregular := regular_of_isBuiltin hchecks hnumbered
  have hok : ∀ c ∈ sampleChecks, ∀ x ∈ sampleContexts, ∃ fs, foundAtFirst c x [] = .ok fs := by
    have hisOk : ∀ c ∈ sampleChecks, ∀ x ∈ sampleContexts,
        (foundAtFirst c x []).isOk = true := by
      simp only [sampleChecks, sampleContexts, List.forall_mem_cons, List.not_mem_nil,
        false_implies, implies_true, and_true]
      decide +kernel
    intro c hc x hx
    have h := hisOk c hc x hx
    revert h
    cases foundAtFirst c x [] with
    | error e => rintro ⟨⟩
    | ok fs => exact fun _ => ⟨fs, rfl⟩
  obtain ⟨-, -, hlater, hperm, hsummarized⟩ := run_spec sampleChecks sampleContexts []
  obtain ⟨report, report', hrun, hrun', hfindings⟩ := hperm _ _ sampleChecks.reverse
    sampleContexts.reverse (hregular []) hok (List.reverse_perm _).symm (List.reverse_perm _).symm
    {} (faithful_default _)
  have hrequests : ∀ q ∈ [(sampleContexts, []), (sampleContexts, [sampleFilter])],
      Regular (Faithful (repositoriesOf sampleContexts)) foundAtFirst sampleChecks q.1 q.2 := by
    intro q hq
    simp only [List.mem_cons, List.not_mem_nil, or_false] at hq
    rcases hq with rfl | rfl <;> exact hregular _
  refine ⟨report, report', hrun, hrun', hfindings, hsummarized {} report hrun, ?_⟩
  rw [hlater _ _ _ hrequests {} (faithful_default _)]
  exact congrArg (· :: _) hrun

end HouseRules.Engine
