import Interlock.Draft.Stage
import Interlock.Rule

/-!
# Events

What happens while rules are read and actions are judged is recorded as a list of events. An event
is data; `Event.render` gives the line by which a log shows it: a level, the component which
speaks, a message, and named fields.
-/

namespace Interlock

/-- Something which happened while rules were read or actions were judged. -/
inductive Event where
  /-- A draft took the declaration of a name. -/
  | nameDeclared (key name : String)
  /-- A draft took a token and went from one stage to another. -/
  | tokenTaken (token : String) (before after : Stage)
  /-- A statement was read. -/
  | ruleRead (rule : Rule)
  /-- A rule set was made, with so many rules of each kind. -/
  | rulesPartitioned (applicability conflict : Nat)
  /-- An applicability rule of a rule set fired. -/
  | blockingRuleFired (rule : Rule) (action : Action)
  /-- A conflict rule of a rule set fired. -/
  | conflictingRuleFired (rule : Rule) (requesting restricting : Action)
  /-- A rule fired while a joint action was judged. -/
  | ruleFired (rule : Rule) (action : Action)
  /-- A rule failed while a joint action was judged, and the failure was passed over. -/
  | ruleFailed (rule : Rule) (action : Action) (error : Error)
  /-- A joint action of so many actions was judged, of which so many are applicable. -/
  | jointActionJudged (actions applicable : Nat)
  /-- A blank line of a rule file was skipped. -/
  | blankSkipped (line : Nat)
  /-- A comment of a rule file was skipped. -/
  | commentSkipped (line : Nat)
  /-- All rules of a source were read. -/
  | rulesLoaded (source : String) (rules : Nat)
  /-- A session took the rules of a file. -/
  | fileLoaded (path : String) (count : Nat)
  deriving DecidableEq

namespace Event

/-- How much an event matters. -/
inductive Level where
  | trace
  | debug
  | info
  | warn
  deriving DecidableEq

/-- The name of a level in a log. -/
def Level.name : Level → String
  | trace => "TRACE"
  | debug => "DEBUG"
  | info => "INFO"
  | warn => "WARN"

/-- How much an event matters. -/
def level : Event → Level
  | nameDeclared .. | tokenTaken .. | blockingRuleFired .. | conflictingRuleFired ..
  | ruleFired .. => .trace
  | ruleRead .. | rulesPartitioned .. | jointActionJudged .. | blankSkipped ..
  | commentSkipped .. => .debug
  | rulesLoaded .. | fileLoaded .. => .info
  | ruleFailed .. => .warn

/-- The name of the component which speaks. -/
def component : Event → String
  | nameDeclared .. | tokenTaken .. => "cdl_language::builder"
  | ruleRead .. => "cdl_language::parser"
  | rulesPartitioned .. | blockingRuleFired .. | conflictingRuleFired .. => "cdl_engine::rule_set"
  | ruleFired .. | ruleFailed .. | jointActionJudged .. => "cdl_engine::validator"
  | blankSkipped .. | commentSkipped .. | rulesLoaded .. => "cdl_runtime::reader"
  | fileLoaded .. => "cdl_runtime::session"

/-- What the event says. -/
def message : Event → String
  | nameDeclared .. => "context mapped"
  | tokenTaken .. => "predicate token"
  | ruleRead .. => "parsed constraint"
  | rulesPartitioned .. => "partitioned rule set"
  | blockingRuleFired .. => "applicability rule fired"
  | conflictingRuleFired .. => "conflict rule fired"
  | ruleFired .. => "rule fired"
  | ruleFailed .. => "rule failed; treating as non-blocking"
  | jointActionJudged .. => "validated joint action"
  | blankSkipped .. => "skipped blank line"
  | commentSkipped .. => "skipped comment"
  | rulesLoaded .. => "loaded rules"
  | fileLoaded .. => "loaded rule file"

/-- The named fields of an event, in order. -/
def fields : Event → List (String × String)
  | nameDeclared key name => [("slot", key), ("name", name)]
  | tokenTaken token before after =>
    [("token", token), ("from", before.name), ("to", after.name)]
  | ruleRead rule =>
    [("rule", rule.render), ("single", if rule.isSingle then "true" else "false"),
      ("clauses", rule.predicate.clauses.length.repr)]
  | rulesPartitioned applicability conflict =>
    [("applicability", applicability.repr), ("conflict", conflict.repr)]
  | blockingRuleFired rule action => [("rule", rule.render), ("action", action.render)]
  | conflictingRuleFired rule requesting restricting =>
    [("rule", rule.render), ("requesting", requesting.render),
      ("restricting", restricting.render)]
  | ruleFired rule action => [("rule", rule.render), ("action", action.render)]
  | ruleFailed rule action error =>
    [("rule", rule.render), ("action", action.render), ("error", error.message)]
  | jointActionJudged actions applicable =>
    [("actions", actions.repr), ("applicable", applicable.repr)]
  | blankSkipped line | commentSkipped line => [("line", line.repr)]
  | rulesLoaded source rules => [("source", source), ("rules", rules.repr)]
  | fileLoaded path count => [("path", path), ("count", count.repr)]

/-- The line by which a log shows an event. -/
def render (e : Event) : String :=
  e.level.name ++ " " ++ e.component ++ ": " ++ e.message ++
    String.join (e.fields.map fun (name, value) => " " ++ name ++ "=" ++ value)

end Event

end Interlock
