import Interlock.Proofs.Report.Reordering
import Interlock.Proofs.Rule.Relevance

/-!
# What reports depend on

The rules of a rule set read the actions of a step through the fields which they mention. So which
actions are blocked and which are in conflict depends on these fields alone: where they are the
same, the actions may differ in all else, and so may the grid and the policy.

* `Report.AgreeFor`: two actions agree on all that some rules mention.
  `Report.AgreeFor.isBlocked_iff`, `Report.AgreeFor.isConflict_iff`: the rules do not tell them
  apart.
* `Report.blocked_eq_of_agreeFor`, `Report.conflicting_eq_of_agreeFor`: two reports on actions which
  agree in pairs.
-/

namespace Interlock

namespace Report

variable {rules : List Rule} {a a' b b' : Action}

/-- Two actions have the same values in the fields which the rules mention, under any name. -/
def AgreeFor (rules : List Rule) (a a' : Action) : Prop :=
  ∀ r ∈ rules, ∀ n f, r.Mentions n f → a.field f = a'.field f

/-- Whichever of the actions is bound to a name, it has the same values there. -/
theorem AgreeFor.agrees (ha : AgreeFor rules a a') (hb : AgreeFor rules b b') {r : Rule}
    (hr : r ∈ rules) : r.Agrees a b a' b' := by
  intro n f hn
  rw [Rule.boundTo?, Rule.boundTo?]
  split
  · exact congrArg some (hb r hr n f hn)
  · split
    · exact congrArg some (ha r hr n f hn)
    · rfl

theorem AgreeFor.isBlocked_iff (h : AgreeFor rules a a') :
    IsBlocked rules a ↔ IsBlocked rules a' := by
  refine exists_congr fun r => and_congr_right fun hr => and_congr_right fun hsingle => ?_
  rw [Rule.evaluate_none_eq hsingle a a, Rule.evaluate_none_eq hsingle a' a',
    (h.agrees h hr).evaluate_eq]

theorem AgreeFor.isConflict_iff (ha : AgreeFor rules a a') (hb : AgreeFor rules b b') :
    IsConflict rules a b ↔ IsConflict rules a' b' := by
  refine exists_congr fun r => and_congr_right fun hr => and_congr_right fun _ => ?_
  rw [(ha.agrees hb hr).evaluate_eq]

section Actions

variable {actions actions' : List Action} (h : List.Forall₂ (AgreeFor rules) actions actions')

include h

theorem inConflict_iff_of_agreeFor {i j : Nat} :
    InConflict rules actions i j ↔ InConflict rules actions' i j := by
  refine and_congr_right fun _ => ?_
  have hmax := rel_getElem?_of_forall₂ h (max i j)
  have hmin := rel_getElem?_of_forall₂ h (min i j)
  generalize actions[max i j]? = x, actions'[max i j]? = x' at hmax
  generalize actions[min i j]? = y, actions'[min i j]? = y' at hmin
  cases hmax with
  | none => simp
  | some ha =>
    cases hmin with
    | none => simp
    | some hb => simpa using ha.isConflict_iff hb

variable {p p' : Policy} {isFree isFree' : Vertex → Bool} {report report' : Report}
  (hreport : (judge p (RuleSet.ofList rules) isFree actions).result = .ok report)
  (hreport' : (judge p' (RuleSet.ofList rules) isFree' actions').result = .ok report')

include hreport hreport'

theorem blocked_eq_of_agreeFor : report.blocked = report'.blocked := by
  refine List.ext_getElem? fun i => getElem?_map_verdicts_eq_of_rel hreport hreport'
    (rel_getElem?_of_forall₂ h i) fun a a' v w ha hv hw => ?_
  rw [Bool.eq_iff_iff, hv.blocked, hw.blocked, ha.isBlocked_iff]

theorem conflicting_eq_of_agreeFor : report.conflicting = report'.conflicting := by
  refine List.ext_getElem? fun i => getElem?_map_verdicts_eq_of_rel hreport hreport'
    (rel_getElem?_of_forall₂ h i) fun a a' v w _ hv hw => ?_
  rw [Bool.eq_iff_iff, hv.conflicting, hw.conflicting]
  exact exists_congr fun j => inConflict_iff_of_agreeFor h

end Actions

/-- A rule comes to the same result, or the same error, for two pairs of actions which have the same
    values in the fields which it mentions. So a name to which it does not refer stands for any
    action. And under rules which were read of statements, two joint actions which agree, action by
    action, on all fields which the rules mention have reports, and these say the same about what is
    blocked and what is in conflict, whatever cells are free. -/
theorem evaluate_and_judge_of_agree :
    (∀ (r : Rule) (x y x' y' : Action), r.Agrees x y x' y' →
      r.evaluate x (some y) = r.evaluate x' (some y')) ∧
    (∀ r : Rule, (∀ f, ¬r.Mentions r.requesting f) →
      ∀ x x' y : Action, r.evaluate x (some y) = r.evaluate x' (some y)) ∧
    (∀ (r : Rule) (q : String), r.restricting = some q → (∀ f, ¬r.Mentions q f) →
      ∀ x y y' : Action, r.evaluate x (some y) = r.evaluate x (some y')) ∧
    ∀ rules : List Rule, (∀ r ∈ rules, ∃ s, (Rule.read s).result = .ok r) →
      ∀ (p : Policy) (isFree isFree' : Vertex → Bool) (actions actions' : List Action),
        List.Forall₂ (AgreeFor rules) actions actions' →
        ∃ report report',
          (judge p (RuleSet.ofList rules) isFree actions).result = .ok report ∧
          (judge p (RuleSet.ofList rules) isFree' actions').result = .ok report' ∧
          report.blocked = report'.blocked ∧ report.conflicting = report'.conflicting := by
  refine ⟨fun r x y x' y' h => h.evaluate_eq,
    fun r h => Rule.evaluate_eq_of_not_mentions_requesting h, fun r q hq h => ?_,
    fun rules hrules p isFree isFree' actions actions' h => ?_⟩
  · refine Rule.evaluate_eq_of_not_mentions_restricting fun n hn => ?_
    obtain rfl : q = n := Option.some.inj (hq.symm.trans hn)
    exact h
  · have hchecked : ∀ r ∈ rules, r.Checked := fun r hr => by
      obtain ⟨s, hs⟩ := hrules r hr
      exact (Rule.wellFormed_of_read hs).checked
    obtain ⟨report, hreport⟩ := exists_judge_of_checked hchecked p isFree actions
    obtain ⟨report', hreport'⟩ := exists_judge_of_checked hchecked p isFree' actions'
    exact ⟨report, report', hreport, hreport', blocked_eq_of_agreeFor h hreport hreport',
      conflicting_eq_of_agreeFor h hreport hreport'⟩

/-- The same move by another agent, under another name. -/
def disguise (a : Action) : Action := { a with name := "Wait", agent := a.agent + 10 }

theorem mentions_delayed_iff {time : Int64} {n : String} {f : Field} :
    (Rule.delayed time).predicate.Mentions n f ↔ n = "a" ∧ f = .time := by
  simp [Predicate.Mentions, Rule.delayed, Clause.Mentions, eq_comm]

theorem mentions_following_iff {n : String} {f : Field} : Rule.following.predicate.Mentions n f ↔
    n = "a" ∧ f = .destination ∨ n = "b" ∧ f = .origin := by
  simp [Predicate.Mentions, Rule.following, Rule.comparing, Clause.Mentions, eq_comm]

theorem agreeFor_disguise (a : Action) :
    AgreeFor [Rule.delayed 5, Rule.following] a (disguise a) := by
  intro r hr n f hn
  rcases List.mem_pair.1 hr with rfl | rfl
  · obtain ⟨-, rfl⟩ := mentions_delayed_iff.1 hn
    rfl
  · obtain ⟨-, rfl⟩ | ⟨-, rfl⟩ := mentions_following_iff.1 hn
    · rfl
    · rfl

/-- The rule about late actions is made one about the first of two actions, and then one about the
    second. Who acts does not matter to it, nor to the rule against following. -/
theorem evaluate_and_judge_of_agree_disguise :
    let rules := [Rule.delayed 5, Rule.following]
    let early : Action := ⟨⟨1, 1⟩, ⟨1, 2⟩, 0, "Move", 0⟩
    let late : Action := ⟨⟨1, 2⟩, ⟨1, 1⟩, 9, "Move", 1⟩
    let lateFirst : Rule := { Rule.delayed 5 with restricting := some "b" }
    let lateSecond : Rule := { Rule.delayed 5 with requesting := "b", restricting := some "a" }
    Rule.following.Agrees late early (disguise late) (disguise early) ∧
      Rule.following.evaluate late (some early) =
        Rule.following.evaluate (disguise late) (some (disguise early)) ∧
      (∀ f, ¬lateSecond.Mentions "b" f) ∧
      lateSecond.evaluate early (some late) = lateSecond.evaluate late (some late) ∧
      (∀ f, ¬lateFirst.Mentions "b" f) ∧
      lateFirst.evaluate late (some early) = lateFirst.evaluate late (some late) ∧
      (∀ r ∈ rules, ∃ s, (Rule.read s).result = .ok r) ∧
      List.Forall₂ (AgreeFor rules) exchange (exchange.map disguise) ∧
      ∃ report report', (judge {} (RuleSet.ofList rules) (· != ⟨3, 4⟩) exchange).result =
          .ok report ∧
        (judge {} (RuleSet.ofList rules) (fun _ => true) (exchange.map disguise)).result =
          .ok report' ∧
        report.blocked = report'.blocked ∧ report.conflicting = report'.conflicting := by
  intro rules early late lateFirst lateSecond
  obtain ⟨hagrees, hfirst, hsecond, hjudge⟩ := evaluate_and_judge_of_agree
  have hfollowing : Rule.following.Agrees late early (disguise late) (disguise early) :=
    (agreeFor_disguise late).agrees (agreeFor_disguise early) (by simp)
  have hnone (f : Field) : ¬(Rule.delayed 5).predicate.Mentions "b" f := fun hf =>
    absurd (mentions_delayed_iff.1 hf).1 (by decide)
  have hread : ∀ r ∈ rules, ∃ s, (Rule.read s).result = .ok r := by
    intro r hr
    refine ⟨r.render, ?_⟩
    rcases List.mem_pair.1 hr with rfl | rfl
    · decide +kernel
    · decide +kernel
  have hactions : List.Forall₂ (AgreeFor rules) exchange (exchange.map disguise) :=
    List.forall₂_map_right_iff.2 (List.forall₂_same.2 fun a _ => agreeFor_disguise a)
  exact ⟨hfollowing, hagrees _ _ _ _ _ hfollowing, hnone, hfirst lateSecond hnone _ _ _, hnone,
    hsecond lateFirst "b" rfl hnone _ _ _, hread, hactions, hjudge rules hread _ _ _ _ _ hactions⟩

end Report

end Interlock
