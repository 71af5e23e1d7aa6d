/-! # The command line

The arguments of a call are options and paths. A long option takes its value behind an equals sign or
from the next argument; short options may be written together, and the rest of such a word is the
value of the first one that takes one. Behind two dashes everything is a path.

The options that only show something are obeyed before all others, the first of them alone. -/

namespace HouseRules.Command

/-- The options that only show something. -/
inductive Info where
  /-- The checks. -/
  | list
  /-- The version. -/
  | version
  /-- How to call the program. -/
  | help
  deriving DecidableEq, Repr

/-- What the arguments ask for. -/
structure Options where
  /-- Files, directories and patterns. -/
  paths : List String := []
  /-- The history is to be checked. -/
  history : Bool := false
  /-- Where the repository lies. -/
  repo : Option String := none
  /-- Checks by identifier. -/
  checks : List String := []
  /-- Patterns of paths to ignore. -/
  ignorePaths : List String := []
  /-- Patterns of namespaces to ignore. -/
  ignoreNamespaces : List String := []
  /-- The output format. -/
  format : Option String := none
  /-- The settings file. -/
  config : Option String := none
  /-- Unexpected errors are shown in full. -/
  debug : Bool := false
  /-- The first option that only shows something. -/
  info : Option Info := none
  deriving DecidableEq, Repr

/-- What an option does. -/
inductive Effect where
  /-- It is a switch. -/
  | switch (set : Options → Options)
  /-- It takes a value. -/
  | valued (set : String → Options → Options)

/-- An option that only shows something. -/
def showing (i : Info) : Effect := .switch fun o => { o with info := o.info.or (some i) }

/-- The long options. -/
def longOption? : String → Option Effect
  | "--history" => some (.switch fun o => { o with history := true })
  | "--repo" => some (.valued fun v o => { o with repo := some v })
  | "--check" => some (.valued fun v o => { o with checks := o.checks ++ [v] })
  | "--ignore-path" => some (.valued fun v o => { o with ignorePaths := o.ignorePaths ++ [v] })
  | "--ignore-namespace" =>
    some (.valued fun v o => { o with ignoreNamespaces := o.ignoreNamespaces ++ [v] })
  | "--format" => some (.valued fun v o => { o with format := some v })
  | "--config" => some (.valued fun v o => { o with config := some v })
  | "--debug" => some (.switch fun o => { o with debug := true })
  | "--list" => some (showing .list)
  | "--version" => some (showing .version)
  | "--help" => some (showing .help)
  | _ => none

/-- The long form of a short option. -/
def longForm? : Char → Option String
  | 'g' => some "--history"
  | 'k' => some "--check"
  | 'c' => some "--config"
  | 'd' => some "--debug"
  | 'v' => some "--version"
  | _ => none

/-- What an argument is. -/
inductive Argument where
  /-- A path. -/
  | path
  /-- All that follows are paths. -/
  | onlyPaths
  /-- Options that are complete. -/
  | complete (set : Options → Options)
  /-- Options whose last one takes the next argument. -/
  | waiting (set : String → Options → Options)
  /-- No option. -/
  | unknown

/-- Several short options in one word. -/
def shortOptions (done : Options → Options) : List Char → Argument
  | [] => .complete done
  | c :: r =>
    match (longForm? c).bind longOption? with
    | none => .unknown
    | some (.switch set) => shortOptions (set ∘ done) r
    | some (.valued set) =>
      if r.isEmpty then .waiting fun v => set v ∘ done
      else .complete (set (String.ofList r) ∘ done)

/-- A long option, possibly with a value. -/
def longOption (arg : List Char) : Argument :=
  let name := arg.takeWhile (· != '=')
  let value? := if name.length < arg.length then some (String.ofList (arg.drop (name.length + 1))) else none
  match longOption? (String.ofList name), value? with
  | none, _ => .unknown
  | some (.switch set), none => .complete set
  | some (.switch _), some _ => .unknown
  | some (.valued set), none => .waiting set
  | some (.valued set), some v => .complete (set v)

/-- What an argument is. -/
def argument (arg : String) : Argument :=
  match arg.toList with
  | ['-', '-'] => .onlyPaths
  | '-' :: '-' :: r => longOption ('-' :: '-' :: r)
  | '-' :: c :: r => shortOptions id (c :: r)
  | _ => .path

/-- What arguments ask for on top of earlier ones; nothing if they are no proper call. -/
def parseFrom (o : Options) : List String → Option Options
  | [] => some o
  | arg :: r =>
    match argument arg with
    | .path => parseFrom { o with paths := o.paths ++ [arg] } r
    | .onlyPaths => some { o with paths := o.paths ++ r }
    | .complete set => parseFrom (set o) r
    | .waiting set =>
      match r with
      | [] => none
      | v :: r' => parseFrom (set v o) r'
    | .unknown => none

/-- What arguments ask for; nothing if they are no proper call. -/
def parse (args : List String) : Option Options := parseFrom {} args

end HouseRules.Command
