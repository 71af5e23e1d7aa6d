import HouseRules.Check.Finding

/-! # The rule on asynchronous methods

A method or local function whose result type mentions `Task` must have a name that ends in `Async`.
Only names and types count: whether the method is asynchronous does not matter.

A filter that matches the file's path or one of its namespaces suppresses the whole file. -/

namespace HouseRules.AsyncSuffix

open Styled

/-- The identifier of the check. -/
def checkId : String := "ASY001"

/-- The name of the check. -/
def checkName : String := "async-suffix-for-task"

/-- The ending that is asked for. -/
def suffix : String := "Async"

/-- The word that makes a result type a task. -/
def task : String := "Task"

/-- The kinds of nodes that are looked at. -/
def methodKinds : List String := ["method_declaration", "local_function_statement"]

/-- The title, in words. -/
def title : String := s!"expected postfix {suffix} for method that returns {task}"

/-- The title with its key words marked. -/
def styledTitle : StyledText :=
  [bare "expected postfix ", span suffix .magenta, bare " for method that returns ",
    span task .magenta]

/-- The result type mentions a task and the name lacks the ending. -/
def offends (type name : String) : Bool :=
  Search.occurs task.toList type.toList && !suffix.toList.isSuffixOf name.toList

/-- The message for a name node. -/
def message (f : SourceFile) (nameNode : SyntaxNode) : Message where
  title := styledTitle
  snippets := [
    { source := f.contents
      origin := f.path
      range := ⟨nameNode.start, nameNode.stop⟩
      label := title }]
  help := some [bare s!"consider {f.tree.textOf nameNode}", span suffix .cyan]

/-- The finding at a method, if there is one. -/
def inspect (rendering : Rendering) (f : SourceFile) (method : SyntaxNode) :
    Except Violation (Option Finding) := do
  let type ← method.requiredChild "type"
  let nameNode ← method.requiredChild "name"
  if offends (f.tree.textOf type) (f.tree.textOf nameNode) then
    return some
      { checkId := checkId, message := rendering.render (message f nameNode), path := f.path }
  else return none

/-- A filter suppresses the file. -/
def suppressedBy (f : SourceFile) : Filter → Except Violation Bool
  | .path p => .ok (p.found f.path)
  | .namespaced p => f.tree.anyNamespace p.found

/-- One of the filters suppresses the file. Filters behind the first such one are not consulted. -/
def suppressed (f : SourceFile) : List Filter → Except Violation Bool
  | [] => .ok false
  | g :: gs => do if ← suppressedBy f g then return true else suppressed f gs

/-- The findings in a file. -/
def findings (rendering : Rendering) (f : SourceFile) (filters : List Filter) :
    Except Violation (List Finding) := do
  if ← suppressed f filters then return []
  return (← (f.tree.nodesOfKind methodKinds).mapM (inspect rendering f)).filterMap id

/-- The check. -/
def check (rendering : Rendering) : Check Reading where
  id := checkId
  name := checkName
  execute
    | .file f, filters => Reading.ofExcept .violation (findings rendering f filters)
    | _, _ => return []

end HouseRules.AsyncSuffix
