import Interlock.Predicate

/-!
# Rules

A rule blocks an action if its predicate holds. An *applicability rule* declares one name and
judges an action by itself; a *conflict rule* declares two and judges an action, the requesting
one, against another one, the restricting one.

* `Rule.bind`: the rule for actual actions. `Rule.evaluate`: whether it fires for them.
* `Rule.render`: the statement that spells the rule.
-/

namespace Interlock

/-- The two places for names in a rule. -/
inductive Slot where
  /-- The action which is checked. -/
  | requesting
  /-- The other action of a conflict rule. -/
  | restricting
  deriving DecidableEq

namespace Slot

/-- The key under which a name is declared for a slot. -/
def key : Slot → String
  | requesting => "entry1"
  | restricting => "entry2"

/-- The slot of a key. -/
def ofKey? : String → Option Slot
  | "entry1" => some requesting
  | "entry2" => some restricting
  | _ => none

theorem ofKey?_key (s : Slot) : ofKey? s.key = some s := by
  cases s <;> rfl

/-- What messages call the action of a slot. -/
def role : Slot → String
  | requesting => "requesting"
  | restricting => "restricting"

end Slot

/-- A rule, not yet bound to actions. -/
structure Rule where
  /-- The name of the action which is checked. -/
  requesting : String
  /-- The name of the other action, in a conflict rule. -/
  restricting : Option String
  predicate : Predicate
  deriving DecidableEq

/-- A predicate with the actions that it reads. -/
structure BoundRule where
  bindings : Bindings
  predicate : Predicate
  deriving DecidableEq

/-- The rule fires for the bound actions. -/
def BoundRule.evaluate (r : BoundRule) : Except Error Bool := r.predicate.test r.bindings

namespace Rule

/-- The rule judges an action by itself. -/
def isSingle (r : Rule) : Bool := r.restricting.isNone

/-- The rule for actual actions. A conflict rule needs a second one; an applicability rule ignores
    it. -/
def bind (r : Rule) (first : Action) (second : Option Action) : Except Error BoundRule :=
  let bindings := Bindings.empty.bind r.requesting first
  match r.restricting, second with
  | none, _ => .ok ⟨bindings, r.predicate⟩
  | some _, none => .error { cause := .missingBinding Slot.restricting.role }
  | some name, some a => .ok ⟨bindings.bind name a, r.predicate⟩

/-- The rule fires for these actions. -/
def evaluate (r : Rule) (first : Action) (second : Option Action) : Except Error Bool := do
  (← r.bind first second).evaluate

/-- The statement that spells a rule. -/
def render (r : Rule) : String :=
  "ACTION " ++ r.requesting ++ " IS BLOCKED" ++
    (match r.restricting with
    | some name => " BY ACTION " ++ name
    | none => "") ++ " IF " ++ r.predicate.render

end Rule

end Interlock
