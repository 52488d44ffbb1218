import Interlock.RuleSet

/-!
# Reports on joint actions

The agents of a step propose their actions together, as a list. The report says of each action
whether it may be carried out: unless it goes to a cell which is taken, an applicability rule blocks
it, or a conflict rule fires between it and another action. Each pair of actions is judged once, the
later one requesting and the earlier one restricting, and a conflict counts for both.

* `Policy`: whether cells are checked, and what becomes of a rule that fails.
* `Report.judge`: the report on a joint action.
-/

namespace Interlock

/-- What to do about a rule which cannot be evaluated. -/
inductive OnFailure where
  /-- The error ends the judgement. -/
  | abort
  /-- The rule counts as one which does not fire, with a warning. -/
  | passOver
  deriving DecidableEq

/-- How joint actions are judged. -/
structure Policy where
  onFailure : OnFailure := .abort
  /-- A moving action needs a free cell to go to. -/
  checkOccupancy : Bool := true
  deriving DecidableEq

namespace Policy

/-- Rules alone count, whatever the cells hold. -/
def rulesOnly : Policy := { checkOccupancy := false }

/-- Rules which fail are passed over. -/
def lenient : Policy := { onFailure := .passOver }

end Policy

/-- What the report says of one action. -/
structure Verdict where
  /-- The action goes to a cell which is taken. -/
  occupied : Bool
  /-- An applicability rule fires. -/
  blocked : Bool
  /-- A conflict rule fires with another action. -/
  conflicting : Bool
  deriving DecidableEq

namespace Verdict

/-- The action may be carried out. -/
def applicable (v : Verdict) : Bool := !(v.occupied || v.blocked || v.conflicting)

/-- The verdict after a further pair was judged. -/
def mark (v : Verdict) (hit : Bool) : Verdict := { v with conflicting := v.conflicting || hit }

end Verdict

/-- The verdicts on the actions of a step, in their order. -/
structure Report where
  verdicts : List Verdict := []
  deriving DecidableEq

namespace Report

/-- Which actions may be carried out. -/
def applicable (r : Report) : List Bool := r.verdicts.map Verdict.applicable

/-- Which actions an applicability rule blocks. -/
def blocked (r : Report) : List Bool := r.verdicts.map Verdict.blocked

/-- Which actions are in conflict with another one. -/
def conflicting (r : Report) : List Bool := r.verdicts.map Verdict.conflicting

/-- Which actions go to a cell which is taken. -/
def occupied (r : Report) : List Bool := r.verdicts.map Verdict.occupied

/-- All actions may be carried out. -/
def allApplicable (r : Report) : Bool := r.verdicts.all Verdict.applicable

/-- A rule fires for these actions. The policy says what becomes of a failure. -/
def fires (p : Policy) (r : Rule) (first : Action) (second : Option Action) : Traced Bool :=
  match r.evaluate first second with
  | .ok true => do
    .emit (.ruleFired r first)
    return true
  | .ok false => return false
  | .error e =>
    match p.onFailure with
    | .abort => .fail e
    | .passOver => do
      .emit (.ruleFailed r first e)
      return false

/-- One of some rules fires for these actions. The first which does ends the search. -/
def anyFires (p : Policy) (first : Action) (second : Option Action) : List Rule → Traced Bool
  | [] => return false
  | r :: rs => do
    if ← fires p r first second then return true else anyFires p first second rs

/-- Which of some earlier actions are in conflict with an action that requests. -/
def hits (p : Policy) (rules : RuleSet) (a : Action) : List Action → Traced (List Bool)
  | [] => return []
  | b :: bs => do
    let hit ← anyFires p a (some b) rules.conflict
    return hit :: (← hits p rules a bs)

/-- The verdicts on some actions behind earlier ones, whose verdicts are given and may be marked. -/
def judgeFrom (p : Policy) (rules : RuleSet) (isFree : Vertex → Bool)
    (earlier : List (Action × Verdict)) : List Action → Traced (List (Action × Verdict))
  | [] => return earlier
  | a :: as => do
    let occupied := p.checkOccupancy && a.isMoving && !isFree a.destination
    let blocked ← anyFires p a none rules.applicability
    let hits ← hits p rules a (earlier.map (·.1))
    let marked := earlier.zipWith (fun (b, v) hit => (b, v.mark hit)) hits
    judgeFrom p rules isFree (marked ++ [(a, ⟨occupied, blocked, hits.any id⟩)]) as

/-- The report on a joint action, on a grid where the given cells are free. -/
def judge (p : Policy) (rules : RuleSet) (isFree : Vertex → Bool) (actions : List Action) :
    Traced Report := do
  let judged ← judgeFrom p rules isFree [] actions
  let report : Report := ⟨judged.map (·.2)⟩
  .emit (.jointActionJudged actions.length (report.applicable.count true))
  return report

end Report

end Interlock
