import Interlock.Text.Quoted
import Interlock.Value

/-!
# Errors

An error is a cause, and perhaps the place in a source where it arose. Causes fall into
categories; two of these, misuse of a draft and failed evaluation, are defects of the caller
and not of the text that was read.

* `Cause.message`, `Cause.category`: what a cause says, and where it belongs.
* `Error.message`: the message of the cause, with the place behind it.
-/

namespace Interlock

/-- What went wrong. -/
inductive Cause where
  /-- A statement has no context or no predicate. -/
  | malformedStatement (statement pattern : String)
  /-- The context of a statement does not declare its names as it should. -/
  | malformedContext (context pattern : String)
  /-- The predicate of a statement is no chain of clauses. -/
  | malformedPredicate (predicate pattern message : String)
  /-- A token is none of the connectors. -/
  | invalidConnector (token : String)
  /-- A token is neither a literal nor a reference to a field. -/
  | invalidOperand (token : String)
  /-- A phrase is none of the operators. -/
  | unknownOperator (phrase : String)
  /-- An operator does not compare values of this type. -/
  | unsupportedOperandType (operator : String) (type : ValueType)
  /-- The operands of a clause differ in type. -/
  | incompatibleOperandTypes (left right : ValueType)
  /-- A draft got a token which its stage cannot take. -/
  | unexpectedToken (stage token : String)
  /-- A draft got a blank token. -/
  | emptyToken
  /-- A predicate stops in the middle of a clause, or before the first one. -/
  | incompletePredicate
  /-- Something was asked for too early, or built out of unfit parts. -/
  | preconditionViolation (what : String)
  /-- A declaration of a name was refused. -/
  | invalidContextMapping (key name reason : String)
  /-- No action is bound for this role. -/
  | missingBinding (role : String)
  /-- A clause refers to a name which was not declared. -/
  | missingContextEntry (name : String)
  /-- Nothing is bound under this key. -/
  | unknownContextKey (key : String)
  /-- An operator met a value of another type than its own. -/
  | valueKindMismatch (expected actual : ValueType)
  /-- A text is no action. -/
  | invalidAction (text reason : String)
  /-- A command was not understood. -/
  | invalidCommand (command reason : String)
  /-- A source could not be read. -/
  | unreadable (path reason : String)
  deriving DecidableEq

/-- The categories of errors. -/
inductive Category where
  | parse
  | operand
  | type
  | builderState
  | binding
  | evaluation
  | io
  deriving DecidableEq

/-- The name of a category. -/
def Category.name : Category → String
  | parse => "parse"
  | operand => "operand"
  | type => "type"
  | builderState => "builder state"
  | binding => "binding"
  | evaluation => "evaluation"
  | io => "io"

namespace Cause

open Text (quoted)

/-- The message of a cause. -/
def message : Cause → String
  | malformedStatement statement pattern =>
    s!"statement does not match the required pattern: {quoted statement} (pattern: {pattern})"
  | malformedContext context pattern =>
    s!"context does not match the required pattern: {quoted context} (pattern: {pattern})"
  | malformedPredicate predicate pattern message =>
    s!"predicate does not match the required pattern: {quoted predicate}: {message} " ++
      s!"(pattern: {pattern})"
  | invalidConnector token => s!"invalid connector: {quoted token}"
  | invalidOperand token => s!"not a valid operand: {quoted token}"
  | unknownOperator phrase => s!"unknown operator: {quoted phrase}"
  | unsupportedOperandType operator type =>
    s!"operator {operator} does not support operands of type {type.name}"
  | incompatibleOperandTypes left right =>
    s!"operands are of incompatible type: {left.name} and {right.name}"
  | unexpectedToken stage token => s!"unexpected predicate token {quoted token} in state {stage}"
  | emptyToken => "predicate token may not be empty"
  | incompletePredicate => "incomplete predicate"
  | preconditionViolation what => s!"precondition violated: {what}"
  | invalidContextMapping key name reason =>
    s!"invalid context mapping {key} -> {quoted name}: {reason}"
  | missingBinding role => s!"missing required {role} context"
  | missingContextEntry name => s!"missing required action context entry: {name}"
  | unknownContextKey key => s!"unknown context key: {key}"
  | valueKindMismatch expected actual =>
    s!"value kind mismatch: expected {expected.name}, got {actual.name}"
  | invalidAction text reason => s!"invalid action {quoted text}: {reason}"
  | invalidCommand command reason => s!"invalid command {command}: {reason}"
  | unreadable path reason => s!"failed to read {path}: {reason}"

/-- The category of a cause. -/
def category : Cause → Category
  | malformedStatement .. | malformedContext .. | malformedPredicate .. | invalidConnector ..
  | invalidAction .. | invalidCommand .. => .parse
  | invalidOperand .. => .operand
  | unknownOperator .. | unsupportedOperandType .. | incompatibleOperandTypes .. => .type
  | unexpectedToken .. | emptyToken | incompletePredicate | preconditionViolation .. =>
    .builderState
  | invalidContextMapping .. | missingBinding .. | missingContextEntry .. => .binding
  | unknownContextKey .. | valueKindMismatch .. => .evaluation
  | unreadable .. => .io

end Cause

/-- Where an error arose: a source and a line in it, counted from one. Each may be unknown. -/
structure Place where
  source : Option String := none
  line : Option Nat := none
  deriving DecidableEq

/-- The text of a place, empty if nothing is known about it. -/
def Place.render : Place → String
  | ⟨some source, some line⟩ => s!"at {source}:{line.repr}"
  | ⟨some source, none⟩ => s!"at {source}"
  | ⟨none, some line⟩ => s!"at line {line.repr}"
  | ⟨none, none⟩ => ""

/-- A cause, and the place where it arose if one was given. -/
structure Error where
  cause : Cause
  place : Option Place := none
  deriving DecidableEq

namespace Error

/-- The message of the cause, followed by the place in brackets. -/
def message (e : Error) : String :=
  match e.place with
  | none => e.cause.message
  | some p => s!"{e.cause.message} ({p.render})"

/-- The category of the cause. -/
def category (e : Error) : Category := e.cause.category

/-- The error shows misuse of a draft or a failed evaluation, and no fault of a text. -/
def isDefect (e : Error) : Bool :=
  e.category == .builderState || e.category == .evaluation

/-- The same error, found at this place. -/
def located (e : Error) (place : Place) : Error := { e with place := some place }

end Error

/-- A cause is an error without a place. -/
instance : Coe Cause Error := ⟨fun cause => { cause }⟩

end Interlock
