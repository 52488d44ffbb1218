import Interlock.Action.Literal
import Interlock.Session

/-!
# The shell

A line of the shell is a statement, which adds a rule to the session, or a command, which begins
with a colon.

* `Shell.readActions`: the action literals of a command.
* `Shell.eval`: the session after a line, and the answer or the error. `Shell.eval_congr`: it reads
  no file but the one that the line asks for.
-/

namespace Interlock

namespace Shell

open Text

/-- The answer to `:help`. -/
def help : String := "\n".intercalate [
  "Statements:",
  "  ACTION a IS BLOCKED IF <predicate>                  add an applicability rule",
  "  ACTION a IS BLOCKED BY ACTION b IF <predicate>      add a conflict rule",
  "",
  "Commands:",
  "  :rules                         list loaded rules",
  "  :load FILE                     load rules from FILE",
  "  :eval N ACTION [ACTION]        evaluate rule N against one or two actions",
  "  :check ACTION...               validate a joint action",
  "  :clear                         remove all rules",
  "  :help                          show this message",
  "  :quit                          exit",
  "",
  "Actions are written [name=Move(E) orig=1,1 dest=1,2 time=0 agent=0];",
  "every key is optional."]

/-- A command was not understood. -/
def invalid (command reason : String) : Error := { cause := .invalidCommand command reason }

/-- A number behind blanks, so that it takes three columns or more. -/
def number (n : Nat) : String :=
  let digits := n.repr
  String.ofList (List.replicate (3 - digits.length) ' ') ++ digits

/-- The lines of a list of rules, each with its number. -/
def ruleLines (index : Nat) : List Rule → List String
  | [] => []
  | r :: rs => (number index ++ ": " ++ r.render) :: ruleLines (index + 1) rs

/-- The answer to `:rules`. -/
def listing (rules : List Rule) : String :=
  if rules.isEmpty then "no rules loaded" else "\n".intercalate (ruleLines 0 rules)

/-- The reasons why an action may not be carried out. -/
def reasons (v : Verdict) : List String :=
  (if v.occupied then ["occupied"] else []) ++ (if v.blocked then ["blocked"] else []) ++
    if v.conflicting then ["conflict"] else []

/-- What a report says of one action. -/
def verdictText (v : Verdict) : String :=
  match reasons v with
  | [] => "applicable"
  | rs => "not applicable (" ++ ", ".intercalate rs ++ ")"

/-- The lines of a report, each with the number of its action. -/
def reportLines (index : Nat) : List (Action × Verdict) → List String
  | [] => []
  | (a, v) :: rest =>
    (number index ++ ": " ++ a.render ++ ": " ++ verdictText v) :: reportLines (index + 1) rest

/-- The answer to `:check`. -/
def reportText (actions : List Action) (r : Report) : String :=
  "\n".intercalate (reportLines 0 (actions.zip r.verdicts))

theorem length_of_cutWhere {α : Type} {p : α → Bool} {s a b : List α}
    (h : cutWhere p s = some (a, b)) : b.length < s.length := by
  obtain ⟨c, -, -, rfl⟩ := eq_append_of_cutWhere h
  simp
  omega

/-- The actions of a text which does not begin with a blank. Each literal reaches to its first
    closing bracket. -/
def readActionsFrom (s : List Char) : Except Error (List Action) :=
  match s with
  | [] => .ok []
  | c :: cs =>
    if c ≠ '[' then
      .error (invalid "action list" ("expected '[', found " ++ quoted (String.ofList (c :: cs))))
    else match _h : cutWhere (· == ']') cs with
      | none => .error (invalid "action list" "missing ']'")
      | some (body, rest) => do
        let a ← Action.read (String.ofList ('[' :: body ++ [']']))
        return a :: (← readActionsFrom (trimStart rest))
termination_by s.length
decreasing_by
  have h₁ := length_of_cutWhere _h
  have h₂ : (trimStart rest).length ≤ rest.length := (List.dropWhile_sublist _).length_le
  simp only [List.length_cons]
  omega

/-- The actions that a text lists, with any blanks between them. -/
def readActions (text : List Char) : Except Error (List Action) :=
  readActionsFrom (trimStart text)

/-! ## Commands -/

/-- `:eval`: whether a rule fires for one or two actions. The rule is given by its number. -/
def evalRule (s : Session) (args : List Char) : Except Error String :=
  match cutWhere isBlank args with
  | none => .error (invalid ":eval" "expected a rule number and actions")
  | some (first, rest) =>
    match index? first with
    | none => .error (invalid ":eval" ("invalid rule number " ++ quoted (String.ofList first)))
    | some index =>
      match s.rules[index]? with
      | none => .error (invalid ":eval" ("no rule " ++ index.repr))
      | some rule => do
        let actions ← readActions rest
        let fires ← match actions with
          | [a] => rule.evaluate a none
          | [a, b] => rule.evaluate a (some b)
          | _ =>
            let reason := "expected one or two actions, found " ++ actions.length.repr
            .error (invalid ":eval" reason)
        return if fires then "blocked" else "not blocked"

/-- `:check`: the report on a joint action, which may not be empty. -/
def checkActions (s : Session) (args : List Char) : Traced String := do
  let actions ← readActions args
  if actions.isEmpty then .fail (invalid ":check" "expected at least one action")
  else return reportText actions (← s.check actions)

/-- `:load`: the session with the rules of a file, and how many there were. -/
def loadFile (files : Files) (s : Session) (args : List Char) : Session × Traced String :=
  let path := String.ofList args
  if args.isEmpty then (s, .fail (invalid ":load" "expected a file path"))
  else
    let (next, count) := s.load files path
    (next, count >>= fun n => return "loaded " ++ n.repr ++ " rules from " ++ path)

/-- The name of a command, and its arguments without blanks at their ends. -/
def splitCommand (line : List Char) : String × List Char :=
  match cutWhere isBlank line with
  | some (name, args) => (String.ofList name, trim args)
  | none => (String.ofList line, [])

/-- The session after a command, which is given without its colon, and the answer. -/
def command (files : Files) (s : Session) (line : List Char) : Session × Traced String :=
  let (name, args) := splitCommand line
  match name with
  | "help" | "h" | "?" => (s, return help)
  | "rules" => (s, return listing s.rules)
  | "load" => loadFile files s args
  | "eval" => (s, evalRule s args)
  | "check" => (s, checkActions s args)
  | "clear" => (s.clear, return "removed " ++ s.rules.length.repr ++ " rules")
  | other => (s, .fail (invalid (":" ++ other) "unknown command, try :help"))

/-- The session after a line, and the answer or the error. -/
def eval (files : Files) (s : Session) (line : String) : Session × Traced String :=
  match trim line.toList with
  | ':' :: rest => command files s rest
  | statement =>
    let (next, index) := s.add (String.ofList statement)
    (next, index >>= fun n => return "rule " ++ n.repr ++ " added")

/-- The path that a line asks to load, if it does. -/
def wanted? (line : String) : Option String :=
  match trim line.toList with
  | ':' :: rest =>
    match splitCommand rest with
    | ("load", args) => some (String.ofList args)
    | _ => none
  | _ => none

/-- A line reads no file but the one that it asks for. -/
theorem eval_congr {files files' : Files} {s : Session} {line : String}
    (h : ∀ p ∈ wanted? line, files (s.resolve p) = files' (s.resolve p)) :
    eval files s line = eval files' s line := by
  unfold eval
  unfold wanted? at h
  split
  · next rest heq =>
    rw [heq] at h
    unfold command
    rcases hc : splitCommand rest with ⟨name, args⟩
    simp only [hc] at h ⊢
    split <;> try rfl
    have : files (s.resolve (String.ofList args)) = files' (s.resolve (String.ofList args)) := by
      simpa using h
    simp only [loadFile, Session.load, RuleFile.load, this]
  · rfl

end Shell

end Interlock
