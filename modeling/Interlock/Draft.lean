import Interlock.Traced

/-!
# Drafts

A draft is a rule in the making. It takes the declarations of names, actions to bind to them, and
the tokens of the predicate, in any order; each clause is checked for its types when its last token
arrives. What a draft refuses leaves it as it was, so that the caller may try again.

* `Draft.apply`: the draft after one call, and what came of the call. `Draft.run`: the same for a
  sequence of calls, of which some may have failed; `Draft.play` stops at the first failure.
* `Draft.toRule`: the finished rule. `Draft.build`: the rule bound to the actions of the draft.
-/

namespace Interlock

/-- A rule in the making. -/
structure Draft where
  /-- The kind of token which comes next. -/
  stage : Stage := .left
  /-- The finished clauses. -/
  clauses : List Clause := []
  /-- The left operand of the open clause. -/
  left : Option Operand := none
  /-- The operator of the open clause. -/
  operator : Option Operator := none
  /-- The connector of the clause which follows. -/
  connector : Option Connector := none
  requestingName : Option String := none
  restrictingName : Option String := none
  requesting : Option Action := none
  restricting : Option Action := none
  deriving DecidableEq

namespace Draft

/-- A draft which has taken nothing. -/
def empty : Draft := {}

/-- The name declared for a slot. -/
def name? (d : Draft) : Slot → Option String
  | .requesting => d.requestingName
  | .restricting => d.restrictingName

/-- The draft with a name for a slot. -/
def setName (d : Draft) (slot : Slot) (name : String) : Draft :=
  match slot with
  | .requesting => { d with requestingName := some name }
  | .restricting => { d with restrictingName := some name }

/-- The draft with an action for a slot, which replaces an earlier one. -/
def setAction (d : Draft) (slot : Slot) (a : Action) : Draft :=
  match slot with
  | .requesting => { d with requesting := some a }
  | .restricting => { d with restricting := some a }

/-- The name is declared for one of the slots. -/
def declares (d : Draft) (name : String) : Bool :=
  d.requestingName == some name || d.restrictingName == some name

/-! ## Calls -/

/-- Declares a name under the key of a slot. Refused are other keys, a key which has a name, a blank
    name, and a name which is declared already. -/
def declare (d : Draft) (key name : String) : Draft × Traced Unit :=
  let refuse (reason : String) : Draft × Traced Unit :=
    (d, .fail { cause := .invalidContextMapping key name reason })
  match Slot.ofKey? key with
  | none => refuse "unknown key"
  | some slot =>
    if (d.name? slot).isSome then refuse "key already mapped"
    else if Text.isBlankText name then refuse "blank name"
    else if d.declares name then refuse "name already mapped"
    else (d.setName slot name, .emit (.nameDeclared key name))

/-- The draft at its next stage, and the record of the token which took it there. -/
def advance (d : Draft) (token : String) : Draft × Traced Unit :=
  ({ d with stage := d.stage.next }, .emit (.tokenTaken token d.stage d.stage.next))

/-- The stage has no part to which the token could belong. -/
def unexpected (d : Draft) (token : String) : Error :=
  { cause := .unexpectedToken d.stage.name token }

/-- Takes the next token of the predicate. It is read as the stage demands; the right operand closes
    a clause, which has to be well typed. -/
def feed (d : Draft) (token : String) : Draft × Traced Unit :=
  if Text.isBlankText token then (d, .fail { cause := .emptyToken })
  else match d.stage with
    | .left =>
      match Operand.read token with
      | .error e => (d, .fail e)
      | .ok o => { d with left := some o }.advance token
    | .operator =>
      match d.left with
      | none => (d, .fail (d.unexpected token))
      | some l =>
        match Operator.read token l.type with
        | .error e => (d, .fail e)
        | .ok o => { d with operator := some o }.advance token
    | .right =>
      match Operand.read token with
      | .error e => (d, .fail e)
      | .ok r =>
        match d.left, d.operator with
        | some l, some o =>
          match Clause.make l o r d.connector with
          | .error e => (d, .fail e)
          | .ok c =>
            { d with
              left := none, operator := none, connector := none,
              clauses := d.clauses ++ [c] }.advance token
        | _, _ => (d, .fail (d.unexpected token))
    | .connector =>
      match Connector.read token with
      | .error e => (d, .fail e)
      | .ok k => { d with connector := some k }.advance token

/-- What can be asked of a draft in the making. -/
inductive Call where
  /-- Declare a name under the key of a slot. -/
  | declare (key name : String)
  /-- Take a token of the predicate. -/
  | feed (token : String)
  /-- Bind an action. -/
  | bind (slot : Slot) (action : Action)
  deriving DecidableEq

/-- The draft after a call, and what came of the call. -/
def apply (d : Draft) : Call → Draft × Traced Unit
  | .declare key name => d.declare key name
  | .feed token => d.feed token
  | .bind slot a => (d.setAction slot a, pure ())

/-- The draft after a sequence of calls, failed ones included, and what came of each. -/
def run (d : Draft) : List Call → Draft × List (Traced Unit)
  | [] => (d, [])
  | c :: cs =>
    let (next, outcome) := d.apply c
    let (last, outcomes) := next.run cs
    (last, outcome :: outcomes)

/-- The draft after a sequence of calls, all of which have to succeed. -/
def play (d : Draft) : List Call → Traced Draft
  | [] => pure d
  | c :: cs => do
    let (next, outcome) := d.apply c
    outcome
    next.play cs

/-! ## Results -/

/-- Only the requesting name is declared. There has to be one. -/
def isSingle (d : Draft) : Except Error Bool :=
  match d.requestingName with
  | some _ => .ok d.restrictingName.isNone
  | none =>
    let what := "requesting context must be declared before classifying a constraint"
    .error { cause := .preconditionViolation what }

/-- The first name to which a clause refers though it is not declared. -/
def undeclared? (d : Draft) : Option String :=
  (d.clauses.flatMap Clause.names).find? fun n => !d.declares n

/-- The predicate is complete, a requesting name is declared, and so is every name to which a clause
    refers. The first of these which fails gives the error. -/
def checkDeclarations (d : Draft) : Except Error Unit :=
  if !d.stage.isTerminal || d.clauses.isEmpty || d.connector.isSome then
    .error { cause := .incompletePredicate }
  else if d.requestingName.isNone then .error { cause := .missingBinding Slot.requesting.role }
  else match d.undeclared? with
    | some n => .error { cause := .missingContextEntry n }
    | none => .ok ()

/-- The declarations are in order, and an action is bound to every declared name. -/
def check (d : Draft) : Except Error Unit := do
  d.checkDeclarations
  if d.requesting.isNone then .error { cause := .missingBinding Slot.requesting.role }
  else if d.restrictingName.isSome && d.restricting.isNone then
    .error { cause := .missingBinding Slot.restricting.role }

/-- The predicate of the finished clauses. -/
def predicate (d : Draft) : Except Error Predicate := Predicate.make d.clauses

/-- The bindings with the action of a slot under its name, if both are there. -/
def bindSlot (b : Bindings) (name : Option String) (a : Option Action) : Bindings :=
  match name, a with
  | some n, some a => b.bind n a
  | _, _ => b

/-- The rule bound to the actions of the draft. -/
def build (d : Draft) : Except Error BoundRule := do
  d.check
  let bindings := bindSlot Bindings.empty d.requestingName d.requesting
  let bindings := bindSlot bindings d.restrictingName d.restricting
  return ⟨bindings, ← d.predicate⟩

/-- The finished rule. The actions of the draft are dropped. -/
def toRule (d : Draft) : Except Error Rule := do
  d.checkDeclarations
  let predicate ← d.predicate
  match d.requestingName with
  | none => .error { cause := .missingBinding Slot.requesting.role }
  | some requesting => return { requesting, restricting := d.restrictingName, predicate }

end Draft

end Interlock
