import Interlock.Proofs.Lists
import Interlock.Proofs.Result
import Interlock.Proofs.Rule.Evaluation
import Interlock.Report

/-!
# What reports say

The actions of a step are judged one after the other, and each marks the earlier ones with which it
is in conflict. Whenever this comes to a report, the report says of every action just what it
should: the order of the judgement, the rules at which the search stops, and the policy for rules
which fail leave no trace.

* `Report.IsOccupied`, `Report.IsBlocked`, `Report.IsConflict`: what makes an action inapplicable.
  `Report.InConflict`: two places of a joint action are in conflict.
* `Report.fires_eq_ok`, `Report.anyFires_eq_ok`, `Report.hits_eq_ok`: what a search for rules came
  to.
* `Report.Judged`: the verdicts on some actions are right among these actions.
  `Report.Judged.concat`: so are those with one more action. `Report.judged_of_judgeFrom`: so are
  those of the loop.

The report on a joint action is read off the verdicts on all of its actions.
-/

namespace Interlock

namespace Report

/-! ## The specification -/

/-- The action goes to a cell which is not free, where this matters. -/
def IsOccupied (p : Policy) (isFree : Vertex → Bool) (a : Action) : Prop :=
  p.checkOccupancy ∧ a.origin ≠ a.destination ∧ ¬isFree a.destination

/-- An applicability rule fires for the action. -/
def IsBlocked (rules : List Rule) (a : Action) : Prop :=
  ∃ r ∈ rules, r.isSingle ∧ r.evaluate a none = .ok true

/-- A conflict rule fires for an action which requests and one which restricts. -/
def IsConflict (rules : List Rule) (a b : Action) : Prop :=
  ∃ r ∈ rules, ¬r.isSingle ∧ r.evaluate a (some b) = .ok true

/-- The actions at two places are in conflict, where the later one requests. -/
def InConflict (rules : List Rule) (actions : List Action) (i j : Nat) : Prop :=
  i ≠ j ∧ ∃ a b, actions[max i j]? = some a ∧ actions[min i j]? = some b ∧ IsConflict rules a b

variable {p : Policy} {rules : List Rule} {isFree : Vertex → Bool} {actions : List Action}

/-- With one more action behind them, an earlier action is in conflict with another earlier one, or
    with the new one, which requests. -/
theorem exists_inConflict_concat {a b : Action} {i : Nat} (hb : actions[i]? = some b) :
    (∃ j, InConflict rules (actions ++ [a]) i j) ↔
      (∃ j, InConflict rules actions i j) ∨ IsConflict rules a b := by
  -- A pair with the new action has it at the later place, so it is the one which requests.
  have hi : i < actions.length := (List.getElem?_eq_some_iff.1 hb).1
  constructor
  · rintro ⟨j, hne, x, y, hx, hy, hconflict⟩
    rcases Nat.lt_or_ge j actions.length with hj | hj
    · rw [List.getElem?_append_left (by omega)] at hx hy
      exact .inl ⟨j, hne, x, y, hx, hy, hconflict⟩
    · rw [Nat.max_eq_right (by omega), getElem?_concat_eq_some_iff] at hx
      rw [Nat.min_eq_left (by omega), List.getElem?_append_left hi, hb] at hy
      cases hy
      rcases hx with hx | ⟨-, rfl⟩
      · exact absurd (List.getElem?_eq_some_iff.1 hx).1 (by omega)
      · exact .inr hconflict
  · rintro (⟨j, hne, x, y, hx, hy, hconflict⟩ | hconflict)
    · exact ⟨j, hne, x, y, getElem?_concat_eq_some_iff.2 (.inl hx),
        getElem?_concat_eq_some_iff.2 (.inl hy), hconflict⟩
    · refine ⟨actions.length, Nat.ne_of_lt hi, a, b, ?_, ?_, hconflict⟩
      · rw [Nat.max_eq_right (by omega), List.getElem?_concat_length]
      · rw [Nat.min_eq_left (by omega), List.getElem?_append_left hi, hb]

/-- The last action requests of all others. -/
theorem exists_inConflict_length {a : Action} :
    (∃ j, InConflict rules (actions ++ [a]) actions.length j) ↔
      ∃ b ∈ actions, IsConflict rules a b := by
  constructor
  · rintro ⟨j, hne, x, y, hx, hy, hconflict⟩
    rw [getElem?_concat_eq_some_iff] at hx hy
    rcases hx with hx | ⟨hj, rfl⟩
    · exact absurd (List.getElem?_eq_some_iff.1 hx).1 (by omega)
    · rcases hy with hy | ⟨hj', -⟩
      · exact ⟨y, List.mem_of_getElem? hy, hconflict⟩
      · exact absurd hne (by omega)
  · rintro ⟨b, hb, hconflict⟩
    obtain ⟨j, hj⟩ := List.getElem?_of_mem hb
    have hlt : j < actions.length := (List.getElem?_eq_some_iff.1 hj).1
    refine ⟨j, Nat.ne_of_gt hlt, a, b, ?_, ?_, hconflict⟩
    · rw [Nat.max_eq_left (by omega), List.getElem?_concat_length]
    · rw [Nat.min_eq_right (by omega), List.getElem?_append_left hlt, hj]

/-! ## Searches for rules -/

/-- Whatever becomes of failures, a rule which was tried counts just if it fires. -/
theorem fires_eq_ok {r : Rule} {x : Action} {y : Option Action} {v : Bool}
    (h : (fires p r x y).result = .ok v) : v ↔ r.evaluate x y = .ok true := by
  rcases hr : r.evaluate x y with e | (- | -)
  -- A failure ends the judgement, or the rule counts as one which does not fire; it has not.
  · rcases hp : p.onFailure with _ | _
    · simp [fires, hr, hp, Traced.fail] at h
    · simp only [fires, hr, hp, Traced.result_bind_eq_ok_iff] at h
      obtain ⟨-, -, ⟨⟩⟩ := h
      simp
  · simp only [fires, hr] at h
    cases h
    simp
  · simp only [fires, hr, Traced.result_bind_eq_ok_iff] at h
    obtain ⟨-, -, ⟨⟩⟩ := h
    simp

theorem anyFires_eq_ok {x : Action} {y : Option Action} {rs : List Rule} {v : Bool}
    (h : (anyFires p x y rs).result = .ok v) : v ↔ ∃ r ∈ rs, r.evaluate x y = .ok true := by
  induction rs with
  | nil =>
    cases h
    simp
  | cons r rs ih =>
    simp only [anyFires, Traced.result_bind_eq_ok_iff] at h
    obtain ⟨w, hw, h⟩ := h
    have hfires := fires_eq_ok hw
    rcases w with - | -
    · simpa [← hfires] using ih h
    · cases h
      simp [← hfires]

theorem hits_eq_ok {s : RuleSet} {a : Action} {bs : List Action} {hs : List Bool}
    (h : (hits p s a bs).result = .ok hs) :
    List.Forall₂ (fun b hit => hit = true ↔ ∃ r ∈ s.conflict, r.evaluate a (some b) = .ok true)
      bs hs := by
  induction bs generalizing hs with
  | nil =>
    cases h
    exact .nil
  | cons b bs ih =>
    simp only [hits, Traced.result_bind_eq_ok_iff] at h
    obtain ⟨hit, hhit, hs', hhs, h⟩ := h
    cases h
    exact .cons (anyFires_eq_ok hhit) (ih hhs)

/-! ## The judgement -/

/-- The verdict on the action at a place is right. -/
structure IsVerdict (p : Policy) (rules : List Rule) (isFree : Vertex → Bool)
    (actions : List Action) (i : Nat) (a : Action) (v : Verdict) : Prop where
  occupied : v.occupied ↔ IsOccupied p isFree a
  blocked : v.blocked ↔ IsBlocked rules a
  conflicting : v.conflicting ↔ ∃ j, InConflict rules actions i j

/-- The verdicts on some actions are right, as long as no further action is judged. -/
def Judged (p : Policy) (rules : List Rule) (isFree : Vertex → Bool)
    (judged : List (Action × Verdict)) : Prop :=
  ∀ i a v, judged[i]? = some (a, v) →
    IsVerdict p rules isFree (judged.map Prod.fst) i a v

/-- Earlier verdicts, marked where the search for a conflict hit. -/
def marked (earlier : List (Action × Verdict)) (hits : List Bool) : List (Action × Verdict) :=
  earlier.zipWith (fun (b, v) hit => (b, v.mark hit)) hits

theorem map_fst_marked {earlier : List (Action × Verdict)} {hits : List Bool}
    (h : (earlier.map Prod.fst).length = hits.length) :
    (marked earlier hits).map Prod.fst = earlier.map Prod.fst := by
  induction earlier generalizing hits with
  | nil => rfl
  | cons e earlier ih =>
    rcases hits with - | ⟨hit, hits⟩
    · cases h
    · exact congrArg (e.1 :: ·) (ih (Nat.succ.inj h))

/-- The verdicts stay right with one more action, which marks those with which it is in conflict. -/
theorem Judged.concat {earlier : List (Action × Verdict)} (h : Judged p rules isFree earlier)
    {a : Action} {v : Verdict} {hits : List Bool}
    (hhits : List.Forall₂ (fun b hit => hit = true ↔ IsConflict rules a b)
      (earlier.map Prod.fst) hits)
    (ho : v.occupied ↔ IsOccupied p isFree a) (hb : v.blocked ↔ IsBlocked rules a)
    (hc : v.conflicting = hits.any id) :
    Judged p rules isFree (marked earlier hits ++ [(a, v)]) := by
  have hfst := map_fst_marked hhits.length_eq
  intro i b w hi
  rw [List.map_append, hfst, List.map_singleton]
  rcases getElem?_concat_eq_some_iff.1 hi with hi | ⟨rfl, hw⟩
  -- An earlier action. Its verdict was marked if the new one is in conflict with it, and nothing
  -- else in its verdict changed.
  · rw [marked, List.getElem?_zipWith_eq_some] at hi
    obtain ⟨⟨b', w'⟩, hit, hearlier, hhit, hmark⟩ := hi
    cases hmark
    have hold := h i b w' hearlier
    have hb' : (earlier.map Prod.fst)[i]? = some b := by simp [hearlier]
    refine ⟨hold.occupied, hold.blocked, ?_⟩
    rw [exists_inConflict_concat hb', ← hold.conflicting, ← rel_of_getElem? hhits hb' hhit]
    simp [Verdict.mark]
  -- The new action, which is in conflict with just those that it marked.
  · cases hw
    have hlength : (marked earlier hits).length = (earlier.map Prod.fst).length := by
      rw [← hfst, List.length_map]
    refine ⟨ho, hb, ?_⟩
    rw [hlength, exists_inConflict_length, hc]
    exact any_iff_of_forall₂ hhits

theorem exists_applicability_iff {q : Rule → Prop} :
    (∃ r ∈ (RuleSet.ofList rules).applicability, q r) ↔ ∃ r ∈ rules, r.isSingle ∧ q r := by
  simp [RuleSet.ofList_eq, and_assoc]

theorem exists_conflict_iff {q : Rule → Prop} :
    (∃ r ∈ (RuleSet.ofList rules).conflict, q r) ↔ ∃ r ∈ rules, ¬r.isSingle ∧ q r := by
  simp [RuleSet.ofList_eq, and_assoc]

/-- The loop keeps the verdicts right, and judges all actions in their order. -/
theorem judged_of_judgeFrom {earlier judged : List (Action × Verdict)} {as : List Action}
    (h : (judgeFrom p (RuleSet.ofList rules) isFree earlier as).result = .ok judged)
    (hj : Judged p rules isFree earlier) :
    Judged p rules isFree judged ∧ judged.map Prod.fst = earlier.map Prod.fst ++ as := by
  induction as generalizing earlier with
  | nil =>
    cases h
    exact ⟨hj, by simp⟩
  | cons a as ih =>
    simp only [judgeFrom, Traced.result_bind_eq_ok_iff] at h
    obtain ⟨blocked, hblocked, hs, hhits, h⟩ := h
    have hb : blocked ↔ IsBlocked rules a :=
      (anyFires_eq_ok hblocked).trans exists_applicability_iff
    have hf : List.Forall₂ (fun b hit => hit = true ↔ IsConflict rules a b)
        (earlier.map Prod.fst) hs :=
      (hits_eq_ok hhits).imp fun b hit hhit => hhit.trans exists_conflict_iff
    have ho : (p.checkOccupancy && a.isMoving && !isFree a.destination) ↔
        IsOccupied p isFree a := by
      simp [IsOccupied, Action.isMoving, and_assoc]
    have hrest : (judgeFrom p (RuleSet.ofList rules) isFree
        (marked earlier hs ++ [(a, ⟨_, blocked, hs.any id⟩)]) as).result = .ok judged := h
    -- One turn of the loop adds one action; the other turns start from what it leaves.
    obtain ⟨hjudged, hfst⟩ := ih hrest (hj.concat hf ho hb rfl)
    refine ⟨hjudged, ?_⟩
    rw [hfst, List.map_append, map_fst_marked hf.length_eq]
    simp

/-- A report on a joint action says of every action just what it should, under either policy. The
    cell to which the action goes is taken; an applicability rule fires for it; a conflict rule
    fires with another action, where the later of the two requests; and the action is applicable if
    none of this is so. -/
theorem flags_of_judge {report : Report}
    (h : (judge p (RuleSet.ofList rules) isFree actions).result = .ok report) :
    (report.occupied.length = actions.length ∧ report.blocked.length = actions.length ∧
      report.conflicting.length = actions.length ∧ report.applicable.length = actions.length) ∧
    ∀ i a, actions[i]? = some a →
      (report.occupied[i]? = some true ↔ IsOccupied p isFree a) ∧
      (report.blocked[i]? = some true ↔ IsBlocked rules a) ∧
      (report.conflicting[i]? = some true ↔ ∃ j, InConflict rules actions i j) ∧
      (report.applicable[i]? = some true ↔
        ¬(IsOccupied p isFree a ∨ IsBlocked rules a ∨ ∃ j, InConflict rules actions i j)) := by
  simp only [judge, Traced.result_bind_eq_ok_iff] at h
  obtain ⟨judged, hjudge, -, -, h⟩ := h
  cases h
  obtain ⟨hjudged, hfst⟩ := judged_of_judgeFrom hjudge (by simp [Judged])
  rw [List.map_nil, List.nil_append] at hfst
  subst hfst
  refine ⟨by simp [occupied, blocked, conflicting, applicable], fun i a ha => ?_⟩
  obtain ⟨⟨a', v⟩, hv, rfl⟩ : ∃ e, judged[i]? = some e ∧ e.1 = a := by simpa using ha
  have hverdict := hjudged i a' v hv
  simp only [occupied, blocked, conflicting, applicable, List.map_map, List.getElem?_map, hv,
    Option.map_some, Function.comp, Option.some.injEq]
  refine ⟨hverdict.occupied, hverdict.blocked, hverdict.conflicting, ?_⟩
  rw [← hverdict.occupied, ← hverdict.blocked, ← hverdict.conflicting]
  simp [Verdict.applicable, and_assoc]

/-- Two agents go to one cell, and a third one, between them in the list, stays where it is. -/
def meeting : List Action :=
  [⟨⟨1, 1⟩, ⟨1, 2⟩, 0, "Move", 0⟩, ⟨⟨3, 3⟩, ⟨3, 3⟩, 0, "NoOp", 1⟩,
    ⟨⟨1, 3⟩, ⟨1, 2⟩, 0, "Move", 2⟩]

theorem flags_of_judge_meeting :
    (judge {} (RuleSet.ofList [Rule.sameCell]) (fun _ => true) meeting).result =
        .ok ⟨[⟨false, false, true⟩, ⟨false, false, false⟩, ⟨false, false, true⟩]⟩ ∧
      (∃ j, InConflict [Rule.sameCell] meeting 0 j) ∧
      ¬∃ j, InConflict [Rule.sameCell] meeting 1 j := by
  have hjudge : (judge {} (RuleSet.ofList [Rule.sameCell]) (fun _ => true) meeting).result =
      .ok ⟨[⟨false, false, true⟩, ⟨false, false, false⟩, ⟨false, false, true⟩]⟩ := rfl
  obtain ⟨-, hspec⟩ := flags_of_judge hjudge
  refine ⟨hjudge, (hspec 0 _ rfl).2.2.1.1 rfl, fun h => ?_⟩
  cases (hspec 1 _ rfl).2.2.1.2 h

end Report

end Interlock
