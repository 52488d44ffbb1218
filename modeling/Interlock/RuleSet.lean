import Interlock.Traced

/-!
# Rule sets

Rules, parted by how many actions they read. Each part keeps the order of the rules.

* `RuleSet.ofList`: the rule set of some rules; `RuleSet.partition` also records that it was made.
* `RuleSet.blockingRule`, `RuleSet.conflictingRule`: the first rule that fires for an action, or for
  an ordered pair of actions.
-/

namespace Interlock

/-- Rules, parted by how many actions they read. -/
structure RuleSet where
  /-- The rules which judge an action by itself. -/
  applicability : List Rule := []
  /-- The rules which judge an action against another one. -/
  conflict : List Rule := []
  deriving DecidableEq

namespace RuleSet

/-- No rules. -/
def empty : RuleSet := {}

/-- The rule set with one more rule. -/
def push (s : RuleSet) (r : Rule) : RuleSet :=
  if r.isSingle then { s with applicability := s.applicability ++ [r] }
  else { s with conflict := s.conflict ++ [r] }

/-- The rule set with more rules, in order. -/
def extend (s : RuleSet) (rules : List Rule) : RuleSet := rules.foldl push s

/-- The rule set of some rules. -/
def ofList (rules : List Rule) : RuleSet := empty.extend rules

theorem extend_eq (s : RuleSet) (rules : List Rule) :
    s.extend rules = ⟨s.applicability ++ rules.filter Rule.isSingle,
      s.conflict ++ rules.filter fun r => !r.isSingle⟩ := by
  induction rules generalizing s with
  | nil => simp [extend]
  | cons r rs ih =>
    have : s.extend (r :: rs) = (s.push r).extend rs := rfl
    rw [this, ih]
    by_cases h : r.isSingle <;> simp [push, h]

theorem ofList_eq (rules : List Rule) :
    ofList rules = ⟨rules.filter Rule.isSingle, rules.filter fun r => !r.isSingle⟩ := by
  simp [ofList, extend_eq, empty]

/-- All rules, those which judge an action by itself first. -/
def toList (s : RuleSet) : List Rule := s.applicability ++ s.conflict

/-- The number of rules. -/
def size (s : RuleSet) : Nat := s.applicability.length + s.conflict.length

/-- The rule set of some rules, with a record of it. -/
def partition (rules : List Rule) : Traced RuleSet := do
  let s := ofList rules
  .emit (.rulesPartitioned s.applicability.length s.conflict.length)
  return s

/-- The first of some rules which blocks an action by itself. -/
def firstBlocking (a : Action) : List Rule → Traced (Option Rule)
  | [] => pure none
  | r :: rs => do
    if ← r.evaluate a none then
      .emit (.blockingRuleFired r a)
      return some r
    else firstBlocking a rs

/-- The first of some rules which blocks an action against another one. -/
def firstConflicting (a b : Action) : List Rule → Traced (Option Rule)
  | [] => pure none
  | r :: rs => do
    if ← r.evaluate a (some b) then
      .emit (.conflictingRuleFired r a b)
      return some r
    else firstConflicting a b rs

/-- The first applicability rule which fires for an action. -/
def blockingRule (s : RuleSet) (a : Action) : Traced (Option Rule) :=
  firstBlocking a s.applicability

/-- An applicability rule fires for an action. -/
def blocks (s : RuleSet) (a : Action) : Traced Bool := do
  return (← s.blockingRule a).isSome

/-- The first conflict rule which fires for a requesting and a restricting action. -/
def conflictingRule (s : RuleSet) (requesting restricting : Action) : Traced (Option Rule) :=
  firstConflicting requesting restricting s.conflict

/-- A conflict rule fires for a requesting and a restricting action. -/
def conflicts (s : RuleSet) (requesting restricting : Action) : Traced Bool := do
  return (← s.conflictingRule requesting restricting).isSome

end RuleSet

end Interlock
