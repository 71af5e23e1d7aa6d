import HouseRules.Check.Filter
import HouseRules.Proofs.Pattern.Refusals
import Mathlib.Data.List.Forall2

/-! # Reading filters

The texts for filters are read in order, those for paths first. Either all of them are patterns, or
the first that is none decides (`Filter.build_cases`). If it is malformed, the error says so. The
other faults keep their own wording; the text shows them, unless there is no room to read it. -/

namespace HouseRules

open Pattern

/-- The pattern is the text, read. -/
def TextPattern.Reads (text : String) (p : TextPattern) : Prop :=
  p.text = text ∧ Pattern.compile text = .ok p.expr

namespace FilterError

variable {room : String → Bool} {e : FilterError} {texts front : List String}

end FilterError

variable (room : String → Bool)

namespace Filter

/-- The fault of a result. -/
def fault? {α ε : Type} : Except ε α → Option ε
  | .error e => some e
  | .ok _ => none

end Filter

end HouseRules
