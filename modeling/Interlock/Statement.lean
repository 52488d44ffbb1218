import Interlock.Draft
import Interlock.Statement.Chain

/-!
# Statements

A statement spells a rule: a context, the word `IF` between two spaces, and a predicate. The context
is `ACTION a IS BLOCKED`, for a conflict rule with `BY ACTION b` behind it.

* `Statement.split`: the context and the predicate of a statement.
* `Statement.names?`: the names that a context declares.
* `Draft.read`: the draft of a statement. The predicate is checked as a whole before any of its
  tokens reaches the draft. `Rule.read`: the rule of a statement.
-/

namespace Interlock

namespace Statement

open Text

/-- The shape of a statement, for messages. -/
def pattern : String := "<context> IF <predicate>"

/-- The shape of a context, for messages. -/
def contextPattern : String := "ACTION <name> IS BLOCKED [BY ACTION <name>]"

/-- The shape of a predicate, for messages. -/
def predicatePattern : String :=
  "<operand> <operator> <operand> [(AND|OR)[ NOT] <operand> <operator> <operand>]..."

/-- What stands between the context and the predicate. -/
def separator : List Char := [' ', 'I', 'F', ' ']

/-- The context and the predicate of a statement, without blanks at their ends. The first separator
    counts, and both parts have to hold something. -/
def split (statement : String) : Except Error (String × String) :=
  let malformed : Error := { cause := .malformedStatement statement pattern }
  match cutAt separator (trim statement.toList) with
  | none => .error malformed
  | some (context, predicate) =>
    let context := trim context
    let predicate := trim predicate
    if context.isEmpty || predicate.isEmpty then .error malformed
    else .ok (String.ofList context, String.ofList predicate)

/-- The names that the tokens of a context declare: the requesting one, and the restricting one of
    a conflict rule. -/
def names? (ts : List Token) : Option (String × Option String) :=
  match ts.map Token.kind with
  | [.word "ACTION", .name r, .word "IS", .word "BLOCKED", .eof] => some (r, none)
  | [.word "ACTION", .name r, .word "IS", .word "BLOCKED", .word "BY", .word "ACTION", .name q,
      .eof] => some (r, some q)
  | _ => none

/-- The calls that declare the names of a context. -/
def declarations (requesting : String) (restricting : Option String) : List Draft.Call :=
  .declare Slot.requesting.key requesting ::
    (restricting.map fun name => .declare Slot.restricting.key name).toList

/-- The names that a context declares. -/
def readContext (context : String) : Except Error (String × Option String) :=
  match names? (Token.ofSource context) with
  | some names => .ok names
  | none => .error { cause := .malformedContext context contextPattern }

/-- The clauses of a predicate, as they were written. -/
def readPredicate (predicate : String) : Except Error (List ClauseText) :=
  match Chain.read (Token.ofSource predicate) with
  | .ok clauses => .ok clauses
  | .error fault =>
    .error { cause := .malformedPredicate predicate predicatePattern fault.message }

end Statement

/-- The draft of a statement: its names declared, and its predicate taken token by token. -/
def Draft.read (statement : String) : Traced Draft := do
  let (context, predicate) ← Statement.split statement
  let (requesting, restricting) ← Statement.readContext context
  let d ← Draft.empty.play (Statement.declarations requesting restricting)
  let clauses ← Statement.readPredicate predicate
  d.play ((clauses.flatMap ClauseText.parts).map .feed)

/-- The rule of a statement. -/
def Rule.read (statement : String) : Traced Rule := do
  let d ← Draft.read statement
  let rule ← d.toRule
  .emit (.ruleRead rule)
  return rule

end Interlock
