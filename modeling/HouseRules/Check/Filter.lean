import HouseRules.Pattern.Matcher
import HouseRules.Pattern.Reader

/-! # Filters

A filter suppresses findings: by the path of a file, or by a namespace that a file declares. It
holds a pattern, and it matches a text in which the pattern is found anywhere.

To read a pattern takes nested calls, and there is only so much room for these. Which texts there is
room for depends on the caller, so it is a parameter of reading (`room`). -/

namespace HouseRules

/-- A pattern as it was written, and read. -/
structure TextPattern where
  /-- The written form. -/
  text : String
  /-- The expression. -/
  expr : Pattern.Expr

/-- The pattern is found in the text. -/
def TextPattern.found (p : TextPattern) (s : String) : Bool := p.expr.found s

/-- A filter. -/
inductive Filter where
  /-- Suppresses files by their path. -/
  | path (p : TextPattern)
  /-- Suppresses files by a namespace. -/
  | namespaced (p : TextPattern)

/-- The pattern of a filter. -/
def Filter.pattern : Filter → TextPattern
  | path p => p
  | namespaced p => p

/-- The filter suppresses the path. -/
def Filter.matchesPath (f : Filter) (s : String) : Bool :=
  match f with
  | path p => p.found s
  | namespaced _ => false

/-- A text that is no pattern. -/
structure FilterError where
  /-- The text. -/
  text : String
  /-- Why it is no pattern. -/
  error : Pattern.Error
deriving DecidableEq, Repr

/-- The wording of a filter error. -/
def FilterError.message (e : FilterError) : String :=
  match e.error with
  | .malformed .. => s!"Invalid filter pattern '{e.text}': {e.error.message e.text}"
  | _ => e.error.message e.text

section Reading

/- There is room to read a text as a pattern. -/
variable (room : String → Bool)

/-- Reads a pattern. -/
def TextPattern.compile (text : String) : Except FilterError TextPattern :=
  if !room text then .error ⟨text, .noRoom⟩
  else match Pattern.compile text with
    | .ok expr => .ok ⟨text, expr⟩
    | .error e => .error ⟨text, e⟩

/-- Reads filters, those for paths first. -/
def Filter.build (paths namespaces : List String) : Except FilterError (List Filter) := do
  let ps ← paths.mapM (TextPattern.compile room)
  let ns ← namespaces.mapM (TextPattern.compile room)
  return ps.map .path ++ ns.map .namespaced

end Reading

end HouseRules
