import HouseRules.Command.Outcome
import HouseRules.Proofs.Check.Quiet

/-! # The exit code of a call

A call that gives no pattern to ignore, neither in its options nor in its settings, ends with the
exit code zero if and only if it passes (`Passes`): its settings, its format and its contexts can be
had, and there is nothing to check or nothing is found. Otherwise it ends with one
(`call_exitCode`).

Each stage of a call has its own statement: which checks are run (`mem_checksOf`), what contexts a
call has (`contextsOf_ok`), when a run finds nothing (`runWith_eq_nil_iff`) and when a report
without findings is shown (`report_eq_nil_iff`). -/

namespace HouseRules

open Reading Engine

/-! ### Parts of a run -/

namespace Running

variable {ε α β : Type}

theorem start_bind (x : Running α) (f : α → Running β) (s : Session) :
    (x >>= f).start s = match x.start s with
      | (.ok a, s') => (f a).start s'
      | (.error e, s') => (.error e, s') := by
  simp only [start]
  rw [ExceptT.run_bind, StateT.run_bind]
  rcases (ExceptT.run x).run s with ⟨_ | _, _⟩ <;> rfl

theorem start_ofExcept (wrap : ε → RunError) (x : Except ε α) (s : Session) :
    (ofExcept wrap x).start s = (x.mapError wrap, s) := by
  cases x <;> rfl

theorem start_ofReading (x : Reading α) (s : Session) :
    (ofReading x).start s = ((x.start s).1.mapError .failure, (x.start s).2) := by
  change ofReading x s = _
  unfold ofReading
  rcases x.start s with ⟨e | a, t⟩ <;> rfl

/-- Two parts have a result if the first has one and the second has one from there. -/
theorem start_bind_eq_ok_iff {x : Running α} {f : α → Running β} {s s' : Session} {b : β} :
    (x >>= f).start s = (.ok b, s') ↔
      ∃ a t, x.start s = (.ok a, t) ∧ (f a).start t = (.ok b, s') := by
  rw [start_bind]
  rcases x.start s with ⟨e | a, t⟩
  · simp
  · simp

end Running

theorem bind_eq_ok_iff {ε α β : Type} {x : Except ε α} {f : α → Except ε β} {b : β} :
    (x >>= f) = .ok b ↔ ∃ a, x = .ok a ∧ f a = .ok b := by
  cases x <;> simp [bind, Except.bind]

theorem mapError_eq_ok_iff {ε ε' α : Type} {wrap : ε → ε'} {x : Except ε α} {a : α} :
    x.mapError wrap = .ok a ↔ x = .ok a := by
  cases x <;> simp [Except.mapError]

/-! ### Checks -/

/-- The check of the key is among those asked for; none asked for are all. -/
def Selects (ids : List String) (key : String) : Prop := ids = [] ∨ ∃ id ∈ ids, Text.upper id = key

theorem get_builtinChecks {id : String} {make : Rendering → Check Reading} :
    builtinChecks.get id = .ok make ↔ (Text.upper id, make) ∈ builtinChecks := by
  unfold Registry.get builtinChecks
  simp only [List.find?_cons, List.find?_nil, List.mem_cons, Prod.mk.injEq, List.not_mem_nil,
    or_false]
  by_cases hasy : AsyncSuffix.checkId = Text.upper id
  · have hgit : Text.upper id ≠ CommittedTodos.checkId := by
      rw [← hasy]
      decide
    simp [hasy, hgit, eq_comm]
  · by_cases hgit : CommittedTodos.checkId = Text.upper id
    · have hne : (AsyncSuffix.checkId == Text.upper id) = false := by simpa using hasy
      simp [hne, hgit, Ne.symm hasy, eq_comm]
    · have hne : (AsyncSuffix.checkId == Text.upper id) = false := by simpa using hasy
      have hne' : (CommittedTodos.checkId == Text.upper id) = false := by simpa using hgit
      simp [hne, hne', Ne.symm hasy, Ne.symm hgit]

/-- All checks that are asked for are registered. -/
theorem exists_checksOf_iff {w : Workspace} {s : Settings} :
    (∃ checks, checksOf w s = .ok checks) ↔
    ∀ id ∈ s.checks, Text.upper id ∈ builtinChecks.keys := by
  have hget : ∀ id, (∃ make, builtinChecks.get id = .ok make) ↔
      Text.upper id ∈ builtinChecks.keys := by
    intro id
    simp only [get_builtinChecks, Registry.keys, List.mem_map, Prod.exists, exists_and_right,
      exists_eq_right]
  unfold checksOf
  by_cases hnil : s.checks = []
  · simp [hnil, pure, Except.pure, bind, Except.bind]
  · have hne : s.checks.isEmpty = false := by simpa using hnil
    rw [hne]
    constructor
    · rintro ⟨checks, h⟩ id hid
      cases hall : builtinChecks.getAll s.checks with
      | error e =>
        rw [hall] at h
        cases h
      | ok makes => exact (hget id).mp ((mem_of_mapM hall).1 id hid)
    · intro h
      obtain ⟨makes, hmakes⟩ := exists_mapM fun id hid => (hget id).mpr (h id hid)
      have hall : builtinChecks.getAll s.checks = .ok makes := hmakes
      rw [hall]
      exact ⟨_, rfl⟩

/-- The checks that are run are those asked for. -/
theorem mem_checksOf {w : Workspace} {s : Settings} {checks : List (Check Reading)}
    (h : checksOf w s = .ok checks) {c : Check Reading} :
    c ∈ checks ↔ ∃ q ∈ builtinChecks, Selects s.checks q.1 ∧ c = q.2 (s.rendering w) := by
  unfold checksOf at h
  unfold Selects
  by_cases hnil : s.checks = []
  · simp only [hnil, List.isEmpty_nil, if_true] at h
    cases h
    simp [hnil, Registry.all, Settings.rendering, eq_comm]
  · have hne : s.checks.isEmpty = false := by simpa using hnil
    rw [hne] at h
    cases hall : builtinChecks.getAll s.checks with
    | error e =>
      rw [hall] at h
      cases h
    | ok makes =>
      rw [hall] at h
      cases h
      obtain ⟨-, hmem⟩ := mem_of_mapM hall
      simp only [List.mem_map, hmem, hnil, false_or]
      constructor
      · rintro ⟨make, ⟨id, hid, hget⟩, rfl⟩
        exact ⟨_, get_builtinChecks.mp hget, ⟨id, hid, rfl⟩, rfl⟩
      · rintro ⟨⟨key, make⟩, hq, ⟨id, hid, rfl⟩, rfl⟩
        exact ⟨make, ⟨id, hid, get_builtinChecks.mpr hq⟩, rfl⟩

theorem isBuiltin_of_mem_checksOf {w : Workspace} {s : Settings} {checks : List (Check Reading)}
    (h : checksOf w s = .ok checks) {c : Check Reading} (hc : c ∈ checks) : IsBuiltin c := by
  obtain ⟨q, hq, -, rfl⟩ := (mem_checksOf h).mp hc
  exact ⟨q.2, List.mem_map_of_mem hq, _, rfl⟩

/-! ### Contexts -/

theorem faithful_of_caches {rs : Repository → Prop} {s : Session} (h : ∀ n, s.caches n = []) :
    Faithful rs s := by
  intro r _ id bytes hget
  rw [h r.number] at hget
  cases hget

theorem caches_discover {git : Git} {directory : Path} {s s' : Session}
    {o : Except Failure Repository}
    (hs : ∀ n, s.caches n = []) (h : (Repository.discover git directory).start s = (o, s')) :
    ∀ n, s'.caches n = [] := by
  unfold Repository.discover callGitText callGit at h
  rw [Reading.start_bind, Reading.start_map, Reading.start_bind] at h
  cases hg : (git ["rev-parse", "--show-toplevel"]).toExcept ["rev-parse", "--show-toplevel"] with
  | error e =>
    rw [hg] at h
    cases h
    exact hs
  | ok top =>
    rw [hg] at h
    cases h
    intro n
    change (if n = s.next then [] else s.caches n) = []
    rw [hs n, ite_self]

theorem history_not_mem_sources {w : Workspace} {patterns : List String} {sources : List Context}
    (h : Sources.contexts w patterns = .ok sources) (x : History) : .history x ∉ sources := by
  unfold Sources.contexts at h
  cases hfiles : Sources.files w patterns with
  | error e =>
    rw [hfiles] at h
    cases h
  | ok files =>
    rw [hfiles] at h
    cases h
    simp

/-- **What a call has to check**: files, directories and the history of at most one repository, of
which nothing is kept yet. -/
theorem contextsOf_ok {git : Git} {w : Workspace} {patterns : List String} {history : Bool}
    {repo : Option Path} {contexts : List Context} {s : Session}
    (h : (contextsOf git w patterns history repo).start {} = (.ok contexts, s)) :
    Faithful (repositoriesOf contexts) s ∧ Numbered (repositoriesOf contexts) ∧
      ∀ x, .history x ∈ contexts → ∃ r, x = .repository r := by
  unfold contextsOf at h
  obtain ⟨sources, t, hsources, h⟩ := Running.start_bind_eq_ok_iff.mp h
  rw [Running.start_ofExcept, Prod.mk.injEq, mapError_eq_ok_iff] at hsources
  obtain ⟨hsources, rfl⟩ := hsources
  have hnone := history_not_mem_sources hsources
  cases history with
  | false =>
    cases h
    refine ⟨faithful_default _, ?_, fun x hx => absurd hx (hnone x)⟩
    exact fun r _ hr => absurd hr (hnone (.repository r))
  | true =>
    obtain ⟨r, t, hr, h⟩ := Running.start_bind_eq_ok_iff.mp h
    cases h
    rw [Running.start_ofReading, Prod.mk.injEq, mapError_eq_ok_iff] at hr
    have hone : ∀ x, .history x ∈ sources ++ [.history (.repository r)] → x = .repository r := by
      intro x hx
      rcases List.mem_append.mp hx with hx | hx
      · exact absurd hx (hnone x)
      · simpa using hx
    refine ⟨faithful_of_caches ?_, ?_, fun x hx => ⟨r, hone x hx⟩⟩
    · exact caches_discover (fun _ => rfl) (Prod.ext hr.1 hr.2)
    · intro r₁ r₂ h₁ h₂ _
      cases hone _ h₁
      cases hone _ h₂
      rfl

/-! ### Runs without findings -/

/-- Checks on contexts are quiet: all that are asked for are registered, none fails, the methods in
the files have the ending that is asked for, and the commits of the history add no mark. -/
structure Quiet (ids : List String) (rendering : Rendering) (contexts : List Context)
    (s : Session) : Prop where
  /-- All checks that are asked for are registered. -/
  registered : ∀ id ∈ ids, Text.upper id ∈ builtinChecks.keys
  /-- No check fails. -/
  runs : ∀ q ∈ builtinChecks, Selects ids q.1 → ∀ x ∈ contexts,
    ∃ fs, (((q.2 rendering).execute x []).start s).1 = .ok fs
  /-- The methods in files have the ending, if the check for it is asked for. -/
  suffixed : Selects ids AsyncSuffix.checkId → ∀ f, .file f ∈ contexts → AsyncSuffix.Conforms f
  /-- The commits of a history add no mark, if the check for it is asked for. -/
  unmarked : Selects ids CommittedTodos.checkId → ∀ r, .history (.repository r) ∈ contexts →
    ∀ commit ∈ r.yielded s, CommittedTodos.Unmarked commit

section Quiet

variable {contexts : List Context} {s : Session} {rendering : Rendering}

theorem execute_asyncSuffix_file {f : SourceFile} :
    (((AsyncSuffix.check rendering).execute (.file f) []).start s).1 = .ok [] ↔
      (∃ fs, (((AsyncSuffix.check rendering).execute (.file f) []).start s).1 = .ok fs) ∧
        AsyncSuffix.Conforms f := by
  have hstart : ∀ fs, (((AsyncSuffix.check rendering).execute (.file f) []).start s).1 = .ok fs ↔
      AsyncSuffix.findings rendering f [] = .ok fs := by
    intro fs
    change ((Reading.ofExcept .violation (AsyncSuffix.findings rendering f [])).start s).1 = _ ↔ _
    cases AsyncSuffix.findings rendering f [] with
    | error e =>
      constructor
      · rintro ⟨⟩
      · rintro ⟨⟩
    | ok fs' =>
      change Except.ok fs' = Except.ok fs ↔ _
      simp
  simp only [hstart]
  exact AsyncSuffix.findings_eq_nil_iff

/-- **All checks find nothing** if and only if they are quiet. -/
theorem forall_execute_eq_nil_iff {w : Workspace} {settings : Settings} {checks : List (Check Reading)}
    (hchecks : checksOf w settings = .ok checks) (hs : Faithful (repositoriesOf contexts) s)
    (hn : Numbered (repositoriesOf contexts))
    (hhistory : ∀ x, .history x ∈ contexts → ∃ r, x = .repository r) :
    (∀ x ∈ contexts, ∀ c ∈ checks, ((c.execute x []).start s).1 = .ok []) ↔
      Quiet settings.checks (settings.rendering w) contexts s := by
  have hselected : ∀ q ∈ builtinChecks, Selects settings.checks q.1 →
      q.2 (settings.rendering w) ∈ checks := fun q hq hsel =>
    (mem_checksOf hchecks).mpr ⟨q, hq, hsel, rfl⟩
  have hasy : (AsyncSuffix.checkId, AsyncSuffix.check) ∈ builtinChecks := List.mem_cons_self
  have hgit : (CommittedTodos.checkId, CommittedTodos.check) ∈ builtinChecks :=
    List.mem_cons_of_mem _ List.mem_cons_self
  constructor
  · intro hnil
    refine ⟨exists_checksOf_iff.mp ⟨checks, hchecks⟩, ?_, ?_, ?_⟩
    · intro q hq hsel x hx
      exact ⟨[], hnil x hx _ (hselected q hq hsel)⟩
    · intro hsel f hf
      exact (execute_asyncSuffix_file.mp (hnil _ hf _ (hselected _ hasy hsel))).2
    · intro hsel r hr
      exact ((CommittedTodos.findings_eq_nil_iff hn hr hs).mp
        (hnil _ hr _ (hselected _ hgit hsel))).2
  · intro hquiet x hx c hc
    obtain ⟨q, hq, hsel, rfl⟩ := (mem_checksOf hchecks).mp hc
    have hruns := hquiet.runs q hq hsel x hx
    simp only [builtinChecks, List.mem_cons, List.not_mem_nil, or_false] at hq
    rcases hq with rfl | rfl
    · cases x with
      | file f => exact execute_asyncSuffix_file.mpr ⟨hruns, hquiet.suffixed hsel f hx⟩
      | directory path => rfl
      | history h => rfl
    · cases x with
      | file f => rfl
      | directory path => rfl
      | history h =>
        obtain ⟨r, rfl⟩ := hhistory h hx
        exact (CommittedTodos.findings_eq_nil_iff hn hx hs).mpr ⟨hruns, hquiet.unmarked hsel r hx⟩

end Quiet

theorem exists_eq_ofFindings {checks : List (Check Reading)} {contexts : List Context}
    {filters : List Filter} {s : Session} {report : Report}
    (h : ((run checks contexts filters).start s).1 = .ok report) :
    ∃ fs, report = .ofFindings fs := by
  unfold run at h
  rw [Reading.start_bind] at h
  rcases hf : (findings checks filters contexts).start s with ⟨e | fs, t⟩ <;> rw [hf] at h
  · cases h
  · cases h
    exact ⟨fs, rfl⟩

/-- **A run finds nothing** if and only if its contexts can be had, and there are none or the checks
on them are quiet. -/
theorem runWith_eq_nil_iff {git : Git} {w : Workspace} {settings : Settings} {request : Request}
    (hpaths : (request.refine settings).ignorePaths = [])
    (hnamespaces : (request.refine settings).ignoreNamespaces = []) :
    (∃ report, ((runWith git w settings request).start {}).1 = .ok report ∧ report.findings = []) ↔
      ∃ contexts s, (contextsOf git w request.paths (request.refine settings).history
          request.repo).start {} = (.ok contexts, s) ∧
        (contexts = [] ∨ Quiet (request.refine settings).checks
          ((request.refine settings).rendering w) contexts s) := by
  have hfilters : (request.refine settings).filters w.room = .ok [] := by
    rw [Settings.filters, hpaths, hnamespaces]
    rfl
  unfold runWith
  rw [Running.start_bind]
  rcases hcontexts : (contextsOf git w request.paths (request.refine settings).history
    request.repo).start {} with ⟨e | contexts, s⟩
  · simp
  · obtain ⟨hs, hn, hhistory⟩ := contextsOf_ok hcontexts
    simp only [Prod.mk.injEq, Except.ok.injEq]
    by_cases hempty : contexts = []
    · subst hempty
      constructor
      · exact fun _ => ⟨[], s, ⟨rfl, rfl⟩, Or.inl rfl⟩
      · exact fun _ => ⟨Report.nothing, rfl, rfl⟩
    · have hne : contexts.isEmpty = false := by simpa using hempty
      rw [hne]
      simp only [Bool.false_eq_true, if_false]
      rw [Running.start_bind, Running.start_ofExcept]
      cases hchecks : checksOf w (request.refine settings) with
      | error e =>
        constructor
        · rintro ⟨report, ⟨⟩, -⟩
        · rintro ⟨_, _, ⟨rfl, rfl⟩, hnil | hquiet⟩
          · exact absurd hnil hempty
          · obtain ⟨checks, h⟩ := exists_checksOf_iff.mpr hquiet.registered
            rw [hchecks] at h
            cases h
      | ok checks =>
        have hiff := forall_execute_eq_nil_iff hchecks hs hn hhistory
        rw [← run_eq_nil_iff (fun c hc => isBuiltin_of_mem_checksOf hchecks hc) hn hs] at hiff
        change (∃ report, ((Running.ofExcept RunError.filter
          ((request.refine settings).filters w.room) >>= fun filters =>
            Running.ofReading (run checks contexts filters)).start s).1 = .ok report ∧
              report.findings = []) ↔ _
        rw [Running.start_bind, Running.start_ofExcept, hfilters]
        change (∃ report, ((Running.ofReading (run checks contexts [])).start s).1 = .ok report ∧
          report.findings = []) ↔ _
        simp only [Running.start_ofReading, mapError_eq_ok_iff]
        constructor
        · rintro ⟨report, hrun, hnil⟩
          obtain ⟨fs, rfl⟩ := exists_eq_ofFindings hrun
          have hfs : fs = [] := hnil
          rw [hfs] at hrun
          exact ⟨contexts, s, ⟨rfl, rfl⟩, Or.inr (hiff.mp hrun)⟩
        · rintro ⟨_, _, ⟨rfl, rfl⟩, hnil | hquiet⟩
          · exact absurd hnil hempty
          · exact ⟨_, hiff.mpr hquiet, rfl⟩

/-- A run reports on findings, or that there is nothing to check. -/
theorem report_of_runWith {git : Git} {w : Workspace} {settings : Settings} {request : Request}
    {report : Report} (h : ((runWith git w settings request).start {}).1 = .ok report) :
    report = .nothing ∨ ∃ fs, report = .ofFindings fs := by
  have hstart : (runWith git w settings request).start {} =
      (.ok report, ((runWith git w settings request).start {}).2) := Prod.ext h rfl
  unfold runWith at hstart
  obtain ⟨contexts, s, -, hstart⟩ := Running.start_bind_eq_ok_iff.mp hstart
  split at hstart
  · cases hstart
    exact Or.inl rfl
  · obtain ⟨checks, _, -, hstart⟩ := Running.start_bind_eq_ok_iff.mp hstart
    obtain ⟨filters, t, -, hstart⟩ := Running.start_bind_eq_ok_iff.mp hstart
    rw [Running.start_ofReading, Prod.mk.injEq, mapError_eq_ok_iff] at hstart
    exact Or.inr (exists_eq_ofFindings hstart.1)

/-- How findings are rendered for an output format. -/
def Format.rendering (w : Workspace) : Format → Rendering
  | .terminal => w.rendering
  | _ => .plain

namespace Command

open Styled

/-- The name of the output format: that of the options, unless it is empty, or that of the
settings. -/
def Options.formatName (o : Options) (settings : Settings) : String :=
  match o.format with
  | some f => if f.isEmpty then settings.format else f
  | none => settings.format

/-- The checks that are asked for: those of the options, or else those of the settings. -/
def Options.selected (o : Options) (settings : Settings) : List String :=
  if o.checks.isEmpty then settings.checks else o.checks.map Text.upper

/-- **A call passes**: its settings can be loaded, its output format is known, its contexts can be
had, and there are none or the checks on them are quiet. -/
def Passes (git : Git) (w : Workspace) (o : Options) : Prop :=
  ∃ settings format contexts s,
    Settings.load w (o.config.map Path.ofString) = .ok settings ∧
    Format.ofName (o.formatName settings) = .ok format ∧
    (contextsOf git w o.paths (settings.history || o.history) (o.repo.map Path.ofString)).start {} =
      (.ok contexts, s) ∧
    (contexts = [] ∨ Quiet (o.selected settings) (format.rendering w) contexts s)

/-- What the options ask for on top of the settings. -/
def Options.request (o : Options) (settings : Settings) : Request where
  paths := o.paths
  history := o.history
  repo := o.repo.map Path.ofString
  checks := o.checks
  ignorePaths := o.ignorePaths
  ignoreNamespaces := o.ignoreNamespaces
  format := some (o.formatName settings)

theorem rendering_refine (w : Workspace) {o : Options} {settings : Settings} {format : Format}
    (h : Format.ofName (o.formatName settings) = .ok format) :
    ((o.request settings).refine settings).rendering w = format.rendering w := by
  have hname : ∀ {name : String} {format : Format}, Format.ofName name = .ok format →
      (if (if name.isEmpty then settings.format else name) = "terminal" then w.rendering
        else .plain) = format.rendering w := by
    intro name format h
    unfold Format.ofName at h
    split at h <;> cases h <;> rfl
  exact hname h

/-- A report without findings can be shown in every format. -/
theorem exists_format_of_nil {report : Report}
    (h : report = .nothing ∨ ∃ fs, report = .ofFindings fs) (hnil : report.findings = [])
    (s : Screen) (format : Format) : ∃ output, report.format s format = .ok output := by
  have hsummary : ∃ text, ofMarkup report.summary = .ok text := by
    rcases h with rfl | ⟨fs, rfl⟩
    · exact ⟨[⟨"Nothing to check.".toList, .plain⟩], by decide +kernel⟩
    · have hfs : fs = [] := hnil
      rw [hfs]
      exact ⟨[⟨"No issues found.".toList, .plain⟩], by decide +kernel⟩
  obtain ⟨text, htext⟩ := hsummary
  cases format with
  | terminal =>
    simp only [Report.format, Report.onScreen, htext]
    exact ⟨_, rfl⟩
  | plain => exact ⟨_, rfl⟩
  | json => exact ⟨_, rfl⟩

/-- The stages of a call. -/
theorem report_eq_ok_iff {git : Git} {w : Workspace} {o : Options} {r : Report}
    {output : Report.Output} : report git w o = .ok (r, output) ↔ ∃ settings format,
      Settings.load w (o.config.map Path.ofString) = .ok settings ∧
      Format.ofName (o.formatName settings) = .ok format ∧
      ((runWith git w settings (o.request settings)).start {}).1 = .ok r ∧
      r.format (screen w) format = .ok output := by
  unfold report
  simp only [bind_eq_ok_iff, mapError_eq_ok_iff]
  constructor
  · rintro ⟨settings, hload, format, hformat, _, hrun, _, houtput, ⟨⟩⟩
    exact ⟨settings, format, hload, hformat, hrun, houtput⟩
  · rintro ⟨settings, format, hload, hformat, hrun, houtput⟩
    exact ⟨settings, hload, format, hformat, r, hrun, output, houtput, rfl⟩

/-- **A report without findings is shown** if and only if the call passes. -/
theorem report_eq_nil_iff {git : Git} {w : Workspace} {o : Options}
    (hpaths : o.ignorePaths = []) (hnamespaces : o.ignoreNamespaces = [])
    (hsettings : ∀ settings, Settings.load w (o.config.map Path.ofString) = .ok settings →
      settings.ignorePaths = [] ∧ settings.ignoreNamespaces = []) :
    (∃ r output, report git w o = .ok (r, output) ∧ r.findings = []) ↔ Passes git w o := by
  have hrun : ∀ {settings}, Settings.load w (o.config.map Path.ofString) = .ok settings →
      ((∃ r, ((runWith git w settings (o.request settings)).start {}).1 = .ok r ∧ r.findings = []) ↔
        ∃ contexts s, (contextsOf git w o.paths (settings.history || o.history)
            (o.repo.map Path.ofString)).start {} = (.ok contexts, s) ∧
          (contexts = [] ∨ Quiet (o.selected settings)
            (((o.request settings).refine settings).rendering w) contexts s)) := by
    intro settings hload
    obtain ⟨hnone, hnone'⟩ := hsettings settings hload
    refine runWith_eq_nil_iff ?_ ?_
    · change settings.ignorePaths ++ o.ignorePaths = []
      rw [hnone, hpaths, List.append_nil]
    · change settings.ignoreNamespaces ++ o.ignoreNamespaces = []
      rw [hnone', hnamespaces, List.append_nil]
  simp only [report_eq_ok_iff]
  constructor
  · rintro ⟨r, output, ⟨settings, format, hload, hformat, hr, -⟩, hnil⟩
    obtain ⟨contexts, s, hcontexts, hquiet⟩ := (hrun hload).mp ⟨r, hr, hnil⟩
    rw [rendering_refine w hformat] at hquiet
    exact ⟨settings, format, contexts, s, hload, hformat, hcontexts, hquiet⟩
  · rintro ⟨settings, format, contexts, s, hload, hformat, hcontexts, hquiet⟩
    rw [← rendering_refine w hformat] at hquiet
    obtain ⟨r, hr, hnil⟩ := (hrun hload).mpr ⟨contexts, s, hcontexts, hquiet⟩
    obtain ⟨output, houtput⟩ := exists_format_of_nil (report_of_runWith hr) hnil (screen w) format
    exact ⟨r, output, ⟨settings, format, hload, hformat, hr, houtput⟩, hnil⟩

theorem exitCode_failed (w : Workspace) (debug : Bool) (e : Error) :
    (failed w debug e).exitCode = 1 := by
  unfold failed
  simp only
  split <;> rfl

/-- The exit code tells whether there is a report without findings. -/
theorem exitCode_check (git : Git) (w : Workspace) (debug : Bool) (o : Options) :
    ((check git w debug o).exitCode = 0 ↔
      ∃ r output, report git w o = .ok (r, output) ∧ r.findings = []) ∧
    ((check git w debug o).exitCode = 0 ∨ (check git w debug o).exitCode = 1) := by
  unfold check
  cases hreport : report git w o with
  | error e => simp [exitCode_failed]
  | ok q =>
    obtain ⟨r, output⟩ := q
    by_cases hnil : r.findings = []
    · simp [Report.hasFindings, hnil]
    · simp [Report.hasFindings, hnil]

theorem call_eq_done (git : Git) (w : Workspace) (debugValue : String) {args : List String}
    {o : Options} (hparse : parse args = some o) (hinfo : o.info = none) :
    call git w debugValue args = .done (check git w (o.debug || asksForDebug debugValue) o) := by
  unfold call
  rw [hparse]
  simp only [hinfo]

/-- **The exit code is zero if and only if nothing was found.** A call that checks, and that gives
no pattern to ignore in its options or its settings, ends with zero if it passes, and otherwise with
one. -/
theorem call_exitCode (git : Git) (w : Workspace) (debugValue : String) (args : List String)
    (o : Options) (hparse : parse args = some o) (hinfo : o.info = none)
    (hpaths : o.ignorePaths = []) (hnamespaces : o.ignoreNamespaces = [])
    (hsettings : ∀ settings, Settings.load w (o.config.map Path.ofString) = .ok settings →
      settings.ignorePaths = [] ∧ settings.ignoreNamespaces = []) :
    ∃ outcome, call git w debugValue args = .done outcome ∧
      (outcome.exitCode = 0 ↔ Passes git w o) ∧ (¬ Passes git w o → outcome.exitCode = 1) := by
  obtain ⟨hzero, hbit⟩ := exitCode_check git w (o.debug || asksForDebug debugValue) o
  rw [report_eq_nil_iff hpaths hnamespaces hsettings] at hzero
  refine ⟨_, call_eq_done git w debugValue hparse hinfo, hzero, fun hfails => ?_⟩
  exact hbit.resolve_left fun h => hfails (hzero.mp h)

/-- A directory with a source file. -/
def cleanWorkspace : Workspace where
  tree := ⟨[(["w"], .directory),
    (["w", "a.cs"], .file (Bytes.ofAscii "class A { Task FAsync() { } }\n"))]⟩
  directory := Path.ofString "/w"

/-- A git with a commit that adds a line. -/
def cleanGit : Git := Recording.git
  { top := Bytes.ofAscii "/w\n"
    commits := [⟨"c", Bytes.ofAscii "m\n", Bytes.ofAscii
      "diff --git a/b.cs b/b.cs\nindex 0..1\n--- a/b.cs\n+++ b/b.cs\n@@ -0,0 +1 @@\n+// DONE\n"⟩]
    blobs := [("1", Bytes.ofAscii "// DONE\n")] }

/-- The file and the history pass both checks. -/
theorem call_exitCode_clean :
    let o : Options := { paths := ["a.cs"], history := true, format := some "json" }
    parse ["a.cs", "--history", "--format", "json"] = some o ∧
    Settings.load cleanWorkspace (o.config.map Path.ofString) = .ok {} ∧
    ∃ outcome, call cleanGit cleanWorkspace "" ["a.cs", "--history", "--format", "json"] =
      .done outcome ∧ outcome.exitCode = 0 ∧ Passes cleanGit cleanWorkspace o := by
  intro o
  have hparse : parse ["a.cs", "--history", "--format", "json"] = some o := by decide +kernel
  have hload : Settings.load cleanWorkspace (o.config.map Path.ofString) = .ok {} := rfl
  refine ⟨hparse, hload, ?_⟩
  obtain ⟨outcome, hcall, hiff, -⟩ := call_exitCode cleanGit cleanWorkspace "" _ o hparse rfl rfl
    rfl (by
      intro settings hsettings
      cases hload.symm.trans hsettings
      exact ⟨rfl, rfl⟩)
  have hcode : (match call cleanGit cleanWorkspace "" ["a.cs", "--history", "--format", "json"] with
      | .done outcome => outcome.exitCode
      | .usage => usageCode) = 0 := by decide +kernel
  rw [hcall] at hcode
  exact ⟨outcome, hcall, hcode, hiff.mp hcode⟩

end Command
end HouseRules
