import Culprit.Host.Command.Format
import Culprit.Host.Command.LineSearch
import Culprit.Host.Command.Standard

/-!
# Running programs

What each program but the shell does with its arguments and what it can read.
-/

namespace Culprit.Command

def Program.run (program : Program) (supply : Supply) (arguments : List Octets) : Effect :=
  match program with
  | .shell => .quiet 0
  | .cat => runCat supply arguments
  | .grep => runGrep supply arguments
  | .wc => runWc supply arguments
  | .printf => runPrintf (.program supply.charset) arguments
  | .echo => runEcho (.program supply.charset) arguments
  | .sleep => runSleep supply.charset arguments
  | .succeed => .quiet 0
  | .fail => .quiet 1

end Culprit.Command
