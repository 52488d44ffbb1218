import Interlock.Proofs.Result
import Interlock.Report

/-!
# Searches for a rule

A joint action is judged by searches: for an applicability rule which fires for an action, and for a
conflict rule which fires for a pair. What the judgement comes to depends on what these come to, and
on nothing else of the rules and of the policy for failures.

* `Report.result_anyFires`: where the first failure ends the judgement, a search ends at the first
  rule which fires or fails.
* `Report.result_judge_congr`: the report depends on the searches alone.
-/

namespace Interlock

namespace Report

variable {p p' : Policy} {s s' : RuleSet}

theorem result_fires (hp : p.onFailure = .abort) (r : Rule) (x : Action) (y : Option Action) :
    (fires p r x y).result = r.evaluate x y := by
  rcases hr : r.evaluate x y with e | (- | -)
  · simp only [fires, hr, hp]
    rfl
  · simp only [fires, hr]
    rfl
  · simp only [fires, hr]
    rfl

theorem result_anyFires (hp : p.onFailure = .abort) (x : Action) (y : Option Action)
    (rs : List Rule) : (anyFires p x y rs).result = rs.anyM fun r => r.evaluate x y := by
  induction rs with
  | nil => rfl
  | cons r rs ih =>
    rw [anyFires, Traced.result_bind, result_fires hp, List.anyM_cons]
    rcases r.evaluate x y with e | (- | -)
    · rfl
    · exact ih
    · rfl

theorem result_hits_congr (a : Action)
    (h : ∀ b, (anyFires p a (some b) s.conflict).result =
      (anyFires p' a (some b) s'.conflict).result) (bs : List Action) :
    (hits p s a bs).result = (hits p' s' a bs).result := by
  induction bs with
  | nil => rfl
  | cons b bs ih => simp only [hits, Traced.result_bind, h b, ih]

theorem result_judgeFrom_congr (hc : p.checkOccupancy = p'.checkOccupancy)
    (hblocked : ∀ a, (anyFires p a none s.applicability).result =
      (anyFires p' a none s'.applicability).result)
    (hconflict : ∀ a b, (anyFires p a (some b) s.conflict).result =
      (anyFires p' a (some b) s'.conflict).result)
    (isFree : Vertex → Bool) (earlier : List (Action × Verdict)) (as : List Action) :
    (judgeFrom p s isFree earlier as).result = (judgeFrom p' s' isFree earlier as).result := by
  induction as generalizing earlier with
  | nil => rfl
  | cons a as ih =>
    simp only [judgeFrom, Traced.result_bind, hblocked a, result_hits_congr a (hconflict a), ih, hc]

theorem result_judge_congr (hc : p.checkOccupancy = p'.checkOccupancy)
    (hblocked : ∀ a, (anyFires p a none s.applicability).result =
      (anyFires p' a none s'.applicability).result)
    (hconflict : ∀ a b, (anyFires p a (some b) s.conflict).result =
      (anyFires p' a (some b) s'.conflict).result)
    (isFree : Vertex → Bool) (actions : List Action) :
    (judge p s isFree actions).result = (judge p' s' isFree actions).result := by
  simp only [judge, Traced.result_bind, result_judgeFrom_congr hc hblocked hconflict]

end Report

end Interlock
