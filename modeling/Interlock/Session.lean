import Interlock.Report
import Interlock.RuleFile

/-!
# Sessions

A session holds the rules loaded so far, in their order, and how further files are read and joint
actions are judged.

* `Session.add`, `Session.load`: one more rule, or those of a file. A failure changes nothing.
* `Session.check`: the report on a joint action on an empty grid.
-/

namespace Interlock

/-- The rules loaded so far, and how to go on. -/
structure Session where
  rules : List Rule := []
  reading : RuleFile.Options := {}
  policy : Policy := {}
  /-- The directory to which relative paths belong. -/
  directory : String := ""
  deriving DecidableEq

namespace Session

/-- A path behind a directory. Nothing stands between them if the directory is empty or ends in a
    separator. -/
def join (directory path : String) : String :=
  if directory.isEmpty || directory.toList.getLast? == some '/' then directory ++ path
  else directory ++ "/" ++ path

/-- The path of a file: relative ones belong to the directory of the session. -/
def resolve (s : Session) (path : String) : String :=
  if path.toList.head? == some '/' then path else join s.directory path

/-- The session with the rules that come with the program, in place of its own. -/
def withDefaults (s : Session) : Traced Session := do
  return { s with rules := ← RuleFile.defaults }

/-- The session with the rule of a statement behind its rules, and the place of that rule. -/
def add (s : Session) (statement : String) : Session × Traced Nat :=
  let r := Rule.read statement
  match r.result with
  | .ok rule => ({ s with rules := s.rules ++ [rule] }, ⟨r.events, .ok s.rules.length⟩)
  | .error e => (s, ⟨r.events, .error e⟩)

/-- The session with the rules of a file behind its rules, and the number of these. -/
def load (files : Files) (s : Session) (path : String) : Session × Traced Nat :=
  let path := s.resolve path
  let r := RuleFile.load files s.reading path
  match r.result with
  | .ok rules =>
    let count := rules.length
    ({ s with rules := s.rules ++ rules }, ⟨r.events ++ [.fileLoaded path count], .ok count⟩)
  | .error e => (s, ⟨r.events, .error e⟩)

/-- The session without rules. -/
def clear (s : Session) : Session := { s with rules := [] }

/-- The rule set of the session. -/
def ruleSet (s : Session) : Traced RuleSet := RuleSet.partition s.rules

/-- The report on a joint action, where all cells are free. -/
def check (s : Session) (actions : List Action) : Traced Report := do
  let rules ← s.ruleSet
  Report.judge s.policy rules (fun _ => true) actions

end Session

end Interlock
