import Interlock.Proofs.RuleFile.Defaults

/-!
# Rules which do not depend on the order

Whether a single action is blocked, or goes to a cell which is taken, has nothing to do with the
other actions of the step. So the order of the actions matters for conflicts alone, and there only
if the conflict rules tell the two actions of a pair apart. One-sided rules may still be symmetric
on the actions at hand, as in an exchange of cells, where each agent follows the other.

* `Rule.delayed`: an applicability rule. `Report.exchange`: actions on which the rule against
  following is symmetric.
-/

namespace Interlock

/-- An agent may not act later than at a time. -/
def Rule.delayed (n : Int64) : Rule where
  requesting := "a"
  restricting := none
  predicate :=
    { clauses := [
        { left := .reference "a" .time, operator := ⟨.moreThan, false, .number, rfl⟩,
          right := .literal (.number n) }]
      joined := by simp [Joined] }

namespace Report

variable {rules : List Rule}

/-- If the actions are rearranged, then so are the flags which tell that an action is blocked or
    goes to a cell which is taken. If no two of the actions are told apart by the conflict rules,
    then so are all flags. -/
theorem judge_rearranged (hrules : ∀ r ∈ rules, r.Evaluates) (p : Policy) (isFree : Vertex → Bool)
    {actions actions' : List Action} (h : actions.Perm actions') :
    ∃ report report', (judge p (RuleSet.ofList rules) isFree actions).result = .ok report ∧
      (judge p (RuleSet.ofList rules) isFree actions').result = .ok report' ∧
      (∃ σ, Rearranges σ actions actions') ∧ ∀ σ, Rearranges σ actions actions' →
        Rearranges σ report.occupied report'.occupied ∧
        Rearranges σ report.blocked report'.blocked ∧
        ((∀ a ∈ actions, ∀ b ∈ actions, IsConflict rules a b ↔ IsConflict rules b a) →
          Rearranges σ report.conflicting report'.conflicting ∧
          Rearranges σ report.applicable report'.applicable) := by
  obtain ⟨report, hreport⟩ := exists_judge_of_evaluates hrules p isFree actions
  obtain ⟨report', hreport'⟩ := exists_judge_of_evaluates hrules p isFree actions'
  refine ⟨report, report', hreport, hreport', exists_rearranges_of_perm h, fun σ hσ =>
    ⟨?_, ?_, fun hsymmetric => ?_⟩⟩
  · exact rearranges_map_verdicts hσ hreport hreport' fun _ _ _ _ hv hw => hv.occupied_eq hw
  · exact rearranges_map_verdicts hσ hreport hreport' fun _ _ _ _ hv hw => hv.blocked_eq hw
  · have hverdicts := rearranges_verdicts (fun a ha b hb => (hsymmetric a ha b hb).1) hσ hreport
      hreport'
    exact ⟨hverdicts.map Verdict.conflicting, hverdicts.map Verdict.applicable⟩

theorem isConflict_delayed_following_iff {n : Int64} {a b : Action} :
    IsConflict [Rule.delayed n, Rule.following] a b ↔ a.destination = b.origin := by
  rw [← Rule.evaluate_following_iff]
  simp [IsConflict, Rule.isSingle, Rule.delayed, Rule.following, Rule.comparing]

/-- Two agents change places, the second of them late, and a third one goes to a cell which is
    taken. -/
def exchange : List Action :=
  [⟨⟨1, 1⟩, ⟨1, 2⟩, 0, "Move", 0⟩, ⟨⟨1, 2⟩, ⟨1, 1⟩, 9, "Move", 1⟩,
    ⟨⟨3, 3⟩, ⟨3, 4⟩, 0, "Move", 2⟩]

theorem judge_rearranged_exchange :
    (∀ r ∈ [Rule.delayed 5, Rule.following], r.Evaluates) ∧
      exchange.Perm exchange.reverse ∧ Rearranges (Equiv.swap 0 2) exchange exchange.reverse ∧
      (∀ a ∈ exchange, ∀ b ∈ exchange, IsConflict [Rule.delayed 5, Rule.following] a b ↔
        IsConflict [Rule.delayed 5, Rule.following] b a) ∧
      (judge {} (RuleSet.ofList [Rule.delayed 5, Rule.following]) (· != ⟨3, 4⟩) exchange).result =
        .ok ⟨[⟨false, false, true⟩, ⟨false, true, true⟩, ⟨true, false, false⟩]⟩ ∧
      ∃ report', (judge {} (RuleSet.ofList [Rule.delayed 5, Rule.following]) (· != ⟨3, 4⟩)
          exchange.reverse).result = .ok report' ∧
        Rearranges (Equiv.swap 0 2) [false, false, true] report'.occupied ∧
        Rearranges (Equiv.swap 0 2) [false, true, false] report'.blocked ∧
        Rearranges (Equiv.swap 0 2) [true, true, false] report'.conflicting ∧
        Rearranges (Equiv.swap 0 2) [false, false, false] report'.applicable := by
  have hrules : ∀ r ∈ [Rule.delayed 5, Rule.following], r.Evaluates := by decide
  have hperm : exchange.Perm exchange.reverse := (List.reverse_perm exchange).symm
  have hσ : Rearranges (Equiv.swap 0 2) exchange exchange.reverse := by
    rintro (- | - | - | i)
    · rfl
    · rfl
    · rfl
    · rw [Equiv.swap_apply_of_ne_of_ne (by omega) (by omega)]
      rfl
  have hsymmetric : ∀ a ∈ exchange, ∀ b ∈ exchange,
      IsConflict [Rule.delayed 5, Rule.following] a b ↔
        IsConflict [Rule.delayed 5, Rule.following] b a := by
    simp only [isConflict_delayed_following_iff]
    decide
  obtain ⟨report, report', hreport, hreport', -, hrearranged⟩ :=
    judge_rearranged hrules {} (· != ⟨3, 4⟩) hperm
  obtain ⟨hoccupied, hblocked, hrest⟩ := hrearranged _ hσ
  obtain ⟨hconflicting, happlicable⟩ := hrest hsymmetric
  obtain rfl : ⟨[⟨false, false, true⟩, ⟨false, true, true⟩, ⟨true, false, false⟩]⟩ = report :=
    Except.ok.inj hreport
  exact ⟨hrules, hperm, hσ, hsymmetric, hreport, report', hreport', hoccupied, hblocked,
    hconflicting, happlicable⟩

end Report

end Interlock
