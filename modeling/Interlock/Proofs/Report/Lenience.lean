import Interlock.Proofs.Report.Search
import Interlock.Proofs.Report.Totality
import Interlock.Proofs.Rule.Failure

/-!
# Passing over failures

Where rules which fail are passed over, every joint action gets a report. It is the report that
there is without these rules, even where the first failure would end the judgement: which rules fail
is settled before any action is known, and all others have a result for all actions.

* `Report.searches_of_passOver`: no search fails where failures are passed over.
* `Report.result_anyFires_passOver`: such a search comes to the same as a strict one among the rules
  which do not fail.
-/

namespace Interlock

namespace Report

variable {p p' : Policy} {s : RuleSet}

/-! ## Searches among all rules -/

/-- A rule which fails counts as one which does not fire. -/
theorem result_fires_of_error (hp : p.onFailure = .passOver) {r : Rule} {x : Action}
    {y : Option Action} {e : Error} (h : r.evaluate x y = .error e) :
    (fires p r x y).result = .ok false := by
  simp only [fires, h, hp]
  rfl

theorem exists_fires_eq_of_passOver (hp : p.onFailure = .passOver) (r : Rule) (x : Action)
    (y : Option Action) : ∃ v, (fires p r x y).result = .ok v := by
  rcases hr : r.evaluate x y with e | v
  · exact ⟨false, result_fires_of_error hp hr⟩
  · exact ⟨v, result_fires_of_ok hr⟩

theorem searches_of_passOver (hp : p.onFailure = .passOver) : Searches p s where
  blocked a := exists_anyFires_eq fun r _ => exists_fires_eq_of_passOver hp r a none
  conflict a b := exists_anyFires_eq fun r _ => exists_fires_eq_of_passOver hp r a (some b)

/-! ## Searches among the rules which do not fail -/

/-- Where there are as many actions as each rule reads, passing over failures comes to the same as
    leaving out the rules which fail. -/
theorem result_anyFires_filter (hp : p.onFailure = .passOver) {x : Action} {y : Option Action}
    {rs : List Rule} (h : ∀ r ∈ rs, r.isSingle ∨ y.isSome) :
    (anyFires p' x y (rs.filter (·.Evaluates))).result = (anyFires p x y rs).result := by
  induction rs with
  | nil => rfl
  | cons r rs ih =>
    rw [List.forall_mem_cons] at h
    rw [anyFires, Traced.result_bind]
    by_cases hr : r.Evaluates
    · obtain ⟨v, hv⟩ := (Rule.evaluates_iff h.1).1 hr
      rw [List.filter_cons_of_pos (by simpa using hr), anyFires, Traced.result_bind,
        result_fires_of_ok hv, result_fires_of_ok hv]
      rcases v with - | -
      · exact ih h.2
      · rfl
    · rcases hv : r.evaluate x y with e | v
      · rw [List.filter_cons_of_neg (by simpa using hr), result_fires_of_error hp hv]
        exact ih h.2
      · exact absurd ((Rule.evaluates_iff h.1).2 ⟨v, hv⟩) hr

theorem isSingle_of_mem_applicability {rules : List Rule} {r : Rule}
    (h : r ∈ (RuleSet.ofList rules).applicability) : r.isSingle := by
  rw [RuleSet.ofList_eq] at h
  exact (List.mem_filter.1 h).2

/-- Leaving rules out of a rule set leaves them out of both parts. -/
theorem ofList_filter (rules : List Rule) (q : Rule → Bool) : RuleSet.ofList (rules.filter q) =
    ⟨(RuleSet.ofList rules).applicability.filter q, (RuleSet.ofList rules).conflict.filter q⟩ := by
  simp only [RuleSet.ofList_eq, List.filter_comm]

/-- Whether a rule fails, and with which error, does not depend on the actions. So where failures
    are passed over, every joint action gets a report, and it is the one that there is without the
    rules which fail, where the first failure would end the judgement. -/
theorem judge_passOver (rules : List Rule) (checkOccupancy : Bool) (isFree : Vertex → Bool)
    (actions : List Action) :
    (∀ (r : Rule) (x y x' y' : Action),
      FailAlike (r.evaluate x (some y)) (r.evaluate x' (some y'))) ∧
    ∃ report,
      (judge ⟨.passOver, checkOccupancy⟩ (RuleSet.ofList rules) isFree actions).result =
          .ok report ∧
        (judge ⟨.abort, checkOccupancy⟩ (RuleSet.ofList (rules.filter (·.Evaluates))) isFree
          actions).result = .ok report := by
  refine ⟨fun r x y x' y' => Rule.failAlike_evaluate (.inr rfl), ?_⟩
  obtain ⟨report, hreport⟩ := exists_judge_eq (p := ⟨.passOver, checkOccupancy⟩)
    (s := RuleSet.ofList rules) (searches_of_passOver rfl) isFree actions
  refine ⟨report, hreport, ?_⟩
  rw [← hreport, ofList_filter]
  refine result_judge_congr ?_ (fun a => ?_) (fun a b => ?_) isFree actions
  · rfl
  · exact result_anyFires_filter rfl fun r hr => .inl (isSingle_of_mem_applicability hr)
  · exact result_anyFires_filter rfl fun r _ => .inr rfl

end Report

end Interlock
