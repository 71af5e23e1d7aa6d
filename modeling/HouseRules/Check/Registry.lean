import HouseRules.Check.AsyncSuffix
import HouseRules.Check.CommittedTodos
import HouseRules.Text.Case

/-! # The registry of checks

Checks are registered under keys, in the order of their first registration; a key registered again
keeps its place and gets the new check. A check is asked for by its key in any case of letters. -/

namespace HouseRules

/-- A table of values by key, in the order in which the keys came. -/
abbrev Registry (α : Type) := List (String × α)

namespace Registry

variable {α : Type}

/-- Registers a value. -/
def register (r : Registry α) (key : String) (value : α) : Registry α :=
  if r.any (·.1 == key) then r.map fun (k, v) => if k = key then (k, value) else (k, v)
  else r ++ [(key, value)]

/-- The keys. -/
def keys (r : Registry α) : List String := r.map (·.1)

/-- The values. -/
def all (r : Registry α) : List α := r.map (·.2)

/-- A key that is not registered, and those that are. -/
structure NotFound where
  /-- The key that was asked for. -/
  key : String
  /-- The registered keys. -/
  available : List String
deriving DecidableEq, Repr

/-- The wording of a key that is not registered. -/
def NotFound.message (e : NotFound) : String :=
  let available := if e.available.isEmpty then "none" else ", ".intercalate e.available
  s!"Check '{e.key}' not found. Available: {available}"

/-- The value of a key in any case of letters. -/
def get (r : Registry α) (key : String) : Except NotFound α :=
  match r.find? (·.1 == Text.upper key) with
  | some (_, v) => .ok v
  | none => .error ⟨key, r.keys⟩

/-- The values of several keys, in their order. -/
def getAll (r : Registry α) (keys : List String) : Except NotFound (List α) := keys.mapM r.get

end Registry

/-- The checks that come with the program. -/
def builtinChecks : Registry (Rendering → Check Reading) :=
  [(AsyncSuffix.checkId, AsyncSuffix.check), (CommittedTodos.checkId, CommittedTodos.check)]

end HouseRules
