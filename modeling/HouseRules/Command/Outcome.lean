import HouseRules.Command.Args
import HouseRules.Command.Run
import HouseRules.Report.Format

/-! # The outcome of a call

A call writes to the standard output and the error output and ends with an exit code: zero without
findings, one with findings or after an error, two for an improper call. Errors that are part of
normal use are shown by their message; others in full, if that is asked for. -/

namespace HouseRules.Command

open Styled

/-- What a call leaves behind. -/
structure Outcome where
  /-- The exit code. -/
  exitCode : Nat := 0
  /-- The standard output. -/
  stdout : String := ""
  /-- The error output. -/
  stderr : String := ""
  /-- The error is shown in full behind the error output. What is shown there is no part of the
  outcome. -/
  traceback : Bool := false
  /-- Why the call broke off, if it did: the error message was not well marked up, and nothing could
  be shown. -/
  broken : Option MarkupError := none
  deriving DecidableEq, Repr

/-- The outcome of a call, unless it was improper. -/
inductive Result where
  /-- The call was improper. -/
  | usage
  /-- The call was made. -/
  | done (o : Outcome)
  deriving DecidableEq, Repr

/-- The exit code of an improper call. -/
def usageCode : Nat := 2

/-- The name of the program with its version. -/
def versionLine : String := "stricture 0.1.0"

/-- The screens that a call writes to. -/
def screen (w : Workspace) : Screen := { trims := w.trims }

/-- Why a call failed. -/
inductive Error where
  /-- The output format is not known. -/
  | format (e : UnknownFormat)
  /-- The run failed. -/
  | run (e : RunError)
  /-- The report could not be shown. -/
  | markup (e : MarkupError)

/-- The wording of an error. -/
def Error.message : Error → String
  | format e => e.message
  | run e => e.message
  | markup e => e.message

/-- How much an error is part of normal use. -/
inductive Severity where
  /-- It is expected. -/
  | expected
  /-- A promise inside of the program was broken. -/
  | internal
  /-- It is neither. -/
  | unexpected
  deriving DecidableEq, Repr

/-- How much an error is part of normal use. -/
def Error.severity : Error → Severity
  | run (.settings (.missing _)) => .expected
  | run (.source _) => .expected
  | run (.unknownCheck _) => .expected
  | run (.filter e) =>
    match e.error with
    | .malformed .. => .expected
    | _ => .unexpected
  | run (.failure (.git _)) => .expected
  | run (.failure (.violation _)) => .internal
  | _ => .unexpected

/-- The outcome of an error. -/
def failed (w : Workspace) (debug : Bool) (e : Error) : Outcome :=
  let head := if e.severity = .internal then "[red]Internal error:[/red] " else "[red]Error:[/red] "
  match (screen w).showMarkup (head ++ e.message) with
  | .error fault => { exitCode := 1, broken := some fault }
  | .ok text =>
    let traceback := debug && e.severity ≠ .expected
    let title := if traceback && e.severity = .unexpected then "\nTraceback:\n" else ""
    { exitCode := 1, stderr := text ++ title, traceback }

/-- The report and how it is shown. -/
def report (git : Git) (w : Workspace) (o : Options) : Except Error (Report × Report.Output) := do
  let settings ← (Settings.load w (o.config.map Path.ofString)).mapError fun e => Error.run (.settings e)
  let name := match o.format with
    | some f => if f.isEmpty then settings.format else f
    | none => settings.format
  let format ← (Format.ofName name).mapError Error.format
  let request : Request :=
    { paths := o.paths
      history := o.history
      repo := o.repo.map Path.ofString
      checks := o.checks
      ignorePaths := o.ignorePaths
      ignoreNamespaces := o.ignoreNamespaces
      format := some name }
  let r ← ((runWith git w settings request).start {}).1.mapError Error.run
  return (r, ← (r.format (screen w) format).mapError Error.markup)

/-- The outcome of checking. -/
def check (git : Git) (w : Workspace) (debug : Bool) (o : Options) : Outcome :=
  match report git w o with
  | .error e => failed w debug e
  | .ok (r, output) =>
    let printed := if output.text.isEmpty then "" else (screen w).showLines output.text
    { exitCode := if r.hasFindings then 1 else 0, stdout := output.shown ++ printed }

/-- The outcome of an option that only shows something. -/
def inform (w : Workspace) : Info → Outcome
  | .list =>
    let lines := builtinChecks.all.map fun c =>
      (screen w).showLines s!"{(c .plain).id}  {(c .plain).name}"
    { stdout := String.join lines }
  | .version => { stdout := (screen w).showLines versionLine }
  | .help => {}

/-- The values of the environment variable that ask for errors in full. -/
def debugWords : List String := ["1", "true", "yes"]

/-- The environment asks for errors in full. -/
def asksForDebug (value : String) : Bool :=
  debugWords.contains (String.ofList (value.toList.map Text.lowerChar))

/-- The outcome of a call with the given arguments. `debugValue` is the value of the environment
variable for errors in full. -/
def call (git : Git) (w : Workspace) (debugValue : String) (args : List String) : Result :=
  match parse args with
  | none => .usage
  | some o =>
    match o.info with
    | some i => .done (inform w i)
    | none => .done (check git w (o.debug || asksForDebug debugValue) o)

end HouseRules.Command
