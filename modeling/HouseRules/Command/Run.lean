import HouseRules.Check.Engine
import HouseRules.Check.Registry
import HouseRules.Files.Sources
import HouseRules.Settings.File

/-! # A run

A run collects what is to be checked, looks up the checks, reads the filters and runs the engine, in
this order; the first of these that fails decides how the run fails. -/

namespace HouseRules

/-- Why a run failed. -/
inductive RunError where
  /-- The settings cannot be had. -/
  | settings (e : Settings.LoadError)
  /-- The sources cannot be had. -/
  | source (e : SourceError)
  /-- A check is not known. -/
  | unknownCheck (e : Registry.NotFound)
  /-- A filter is no pattern. -/
  | filter (e : FilterError)
  /-- A check failed, or git did. -/
  | failure (e : Failure)

/-- The wording of a failure. -/
def Failure.message : Failure → String
  | git e => e.message
  | path e => e.message
  | unknownBlob id => Text.quoted id
  | violation v => v.message

/-- The wording of a failed run. -/
def RunError.message : RunError → String
  | settings e => e.message
  | source e => e.message
  | unknownCheck e => e.message
  | filter e => e.message
  | failure e => e.message

/-- A part of a run. -/
abbrev Running := ExceptT RunError (StateM Session)

namespace Running

/-- The outcome of a run and the session behind it. -/
def start {α : Type} (r : Running α) (s : Session) : Except RunError α × Session :=
  (ExceptT.run r).run s

/-- A value, or an error of its own kind. -/
def ofExcept {ε α : Type} (wrap : ε → RunError) : Except ε α → Running α
  | .ok a => pure a
  | .error e => throw (wrap e)

/-- A reading of a history as a part of a run. -/
def ofReading {α : Type} (r : Reading α) : Running α := fun s =>
  let (a, s) := r.start s
  ((match a with
    | .ok a => .ok a
    | .error e => .error (.failure e)), s)

end Running

/-- What is asked for on top of the settings. -/
structure Request where
  /-- Files, directories and patterns to check. -/
  paths : List String := []
  /-- The history is to be checked. -/
  history : Bool := false
  /-- Where the repository lies, if not around the working directory. -/
  repo : Option Path := none
  /-- The checks to run, in place of those of the settings. -/
  checks : List String := []
  /-- More patterns of paths to ignore. -/
  ignorePaths : List String := []
  /-- More patterns of namespaces to ignore. -/
  ignoreNamespaces : List String := []
  /-- The output format, in place of that of the settings. -/
  format : Option String := none

/-- The settings with what is asked for. An empty format is none. -/
def Request.refine (r : Request) (s : Settings) : Settings where
  checks := if r.checks.isEmpty then s.checks else r.checks.map Text.upper
  ignorePaths := s.ignorePaths ++ r.ignorePaths
  ignoreNamespaces := s.ignoreNamespaces ++ r.ignoreNamespaces
  history := s.history || r.history
  format := match r.format with
    | some f => if f.isEmpty then s.format else f
    | none => s.format

/-- What there is to check: directories and files, and possibly a history. -/
def contextsOf (git : Git) (w : Workspace) (patterns : List String) (history : Bool)
    (repo : Option Path) : Running (List Context) := do
  let sources ← Running.ofExcept .source (Sources.contexts w patterns)
  if history then
    let r ← Running.ofReading (Repository.discover git (repo.getD w.directory))
    return sources ++ [.history (.repository r)]
  else return sources

/-- The report when there is nothing to check. -/
def Report.nothing : Report := ⟨[], "Nothing to check."⟩

/-- How findings are rendered for the screen. -/
def Workspace.rendering (w : Workspace) : Rendering :=
  if w.trims then .trimmed Styled.usualColumns else .styled

/-- How findings are rendered for the output format of the settings. -/
def Settings.rendering (w : Workspace) (s : Settings) : Rendering :=
  if s.format = "terminal" then w.rendering else .plain

/-- The checks that settings ask for; none asked for are all. -/
def checksOf (w : Workspace) (s : Settings) : Except Registry.NotFound (List (Check Reading)) := do
  let found ← if s.checks.isEmpty then pure builtinChecks.all else builtinChecks.getAll s.checks
  return found.map (· (s.rendering w))

/-- Runs what is asked for with the given settings. -/
def runWith (git : Git) (w : Workspace) (settings : Settings) (request : Request) : Running Report := do
  let s := request.refine settings
  let contexts ← contextsOf git w request.paths s.history request.repo
  if contexts.isEmpty then return Report.nothing
  let checks ← Running.ofExcept .unknownCheck (checksOf w s)
  let filters ← Running.ofExcept .filter (s.filters w.room)
  Running.ofReading (Engine.run checks contexts filters)

end HouseRules
