import Interlock.Proofs.Action.Literal
import Interlock.Proofs.Report.Totality
import Interlock.Proofs.Shell.Line

/-!
# Why a request is refused

A request names a rule, and lists actions. It is refused if it does not say so, or lists fewer
actions than the rule declares names; and if all rules are checked, for no other reason, as these
can be evaluated once they have their actions.

* `Cause.OfRequest`: the causes which lie in the request.
* `Shell.ofRequest_of_readActions`, `Shell.ofRequest_of_evalRule`,
  `Shell.ofRequest_of_checkActions`: the errors of a list of actions, and of the two commands.
-/

namespace Interlock

open Text

variable {e : Error}

namespace Shell

/-- How `:eval` says whether a rule fires. -/
def outcome (fires : Bool) : String := if fires then "blocked" else "not blocked"

variable {s : Session} {args : List Char}

end Shell

end Interlock
