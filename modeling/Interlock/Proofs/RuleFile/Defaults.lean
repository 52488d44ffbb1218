import Interlock.Proofs.Report.Arrangement
import Interlock.Proofs.Report.Totality
import Interlock.Proofs.Rule.RoundTrip
import Interlock.Proofs.RuleFile.Lines
import Interlock.Proofs.Text.Lines

/-!
# The rules that come with the program

The bundled rules keep agents apart: two actions which may both be carried out share no cell, be it
one where an agent stands or one to which it goes. The rule against following is one-sided, and each
pair of actions is judged in one direction only. But touching edges are forbidden in any direction,
and an agent which follows another one uses an edge which touches the other's; so it does not matter
in which order the actions are given.

* `Rule.comparing`: the conflict rules which compare a field of one action with one of the other.
  `Rule.evaluate_comparing`: they fire just if the comparison holds.
* `RuleFile.defaults_eq`: the bundled rules are of this kind.
* `Action.Touches`: two actions share a cell. `Report.isConflict_defaults_iff`: just these are in
  conflict.
* `Report.KeepsApart`: the report allows no two actions which share a cell.
-/

namespace Interlock

/-! ## The rules -/

namespace Rule

/-- The conflict rule which compares a field of the action with a field of the other one. -/
def comparing (f : Field) (o : Operator) (g : Field) : Rule where
  requesting := "a"
  restricting := some "b"
  predicate :=
    { clauses := [{ left := .reference "a" f, operator := o, right := .reference "b" g }]
      joined := by simp [Joined] }

theorem evaluate_comparing (f : Field) (o : Operator) (g : Field) (x y : Action) :
    (comparing f o g).evaluate x (some y) = o.apply (x.field f) (y.field g) := by
  rw [evaluate, bind_of_some rfl]
  refine (Predicate.test_of_singleton rfl _).trans ?_
  simp only [Clause.evaluate, Operand.value, Bindings.resolve, Bindings.action?_bind]
  rfl

theorem wellFormed_comparing {f : Field} {o : Operator} {g : Field} (hf : f.type = o.type)
    (hg : g.type = o.type) : (comparing f o g).WellFormed where
  requesting := show Token.isName "a".toList by decide
  restricting n hn := by
    obtain rfl : "b" = n := by simpa [comparing] using hn
    decide
  wellNamed :=
    { distinct := by simp [comparing]
      declared := by
        simp only [comparing, Clause.names, Operand.name?, List.forall_mem_singleton]
        rintro n hn
        simpa [eq_comm] using hn }
  writable := by simp [comparing, Operand.IsWritable]
  wellTyped := by simp [comparing, Clause.WellTyped, Operand.type, hf, hg]

theorem supports_overlapsWith_edge : Comparison.overlapsWith.supports .edge := rfl

/-- An agent may not move into the cell which another agent is leaving. -/
def following : Rule := comparing .destination ⟨.is, false, .vertex, supports_is_vertex⟩ .origin

/-- Two agents may not use touching edges in the same step. -/
def touching : Rule :=
  comparing .edge ⟨.overlapsWith, false, .edge, supports_overlapsWith_edge⟩ .edge

theorem sameCell_eq :
    sameCell = comparing .destination ⟨.is, false, .vertex, supports_is_vertex⟩ .destination :=
  rfl

variable {x y : Action}

theorem evaluate_sameCell_iff :
    sameCell.evaluate x (some y) = .ok true ↔ x.destination = y.destination := by
  rw [sameCell_eq, evaluate_comparing]
  simp [Operator.apply, Action.field, Value.type, Comparison.compare?]

theorem evaluate_following_iff :
    following.evaluate x (some y) = .ok true ↔ x.destination = y.origin := by
  rw [following, evaluate_comparing]
  simp [Operator.apply, Action.field, Value.type, Comparison.compare?]

theorem evaluate_touching_iff :
    touching.evaluate x (some y) = .ok true ↔ x.edge.overlaps y.edge := by
  rw [touching, evaluate_comparing]
  simp [Operator.apply, Action.field, Value.type, Comparison.compare?]

end Rule

namespace RuleFile

theorem statements_default : statements { source := some defaultSource } defaultText =
    [Rule.sameCell.render, Rule.following.render, Rule.touching.render] := by
  rw [statements, defaultText, Text.lines_intercalate (by decide +kernel) rfl]
  decide +kernel

theorem defaults_eq : defaults.result = .ok [.sameCell, .following, .touching] := by
  rw [defaults, read_eq_ok_iff, statements_default]
  have hread {r : Rule} (h : r.WellFormed) : (Rule.read r.render).result = .ok r := h.read_render
  exact .cons (hread (Rule.wellFormed_comparing rfl rfl))
    (.cons (hread (Rule.wellFormed_comparing rfl rfl))
      (.cons (hread (Rule.wellFormed_comparing rfl rfl)) .nil))

end RuleFile

/-! ## What they forbid -/

/-- The cells at which the action begins and ends. -/
def Action.endpoints (a : Action) : List Vertex := [a.origin, a.destination]

/-- The actions share a cell. -/
def Action.Touches (a b : Action) : Prop := ∃ v ∈ a.endpoints, v ∈ b.endpoints

theorem Action.touches_iff {a b : Action} : a.Touches b ↔
    (a.origin = b.origin ∨ a.origin = b.destination) ∨
      a.destination = b.origin ∨ a.destination = b.destination := by
  simp [Touches, endpoints]

theorem Action.Touches.symm {a b : Action} (h : a.Touches b) : b.Touches a := by
  obtain ⟨v, ha, hb⟩ := h
  exact ⟨v, hb, ha⟩

namespace Report

open Rule

theorem checked_of_mem_defaults {r : Rule} (hr : r ∈ [sameCell, following, touching]) :
    r.Checked := by
  have hcomparing {f g : Field} {o : Operator} (hf : f.type = o.type) (hg : g.type = o.type) :
      (comparing f o g).Checked := (wellFormed_comparing hf hg).checked
  rcases List.mem_cons.1 hr with rfl | hr
  · exact hcomparing rfl rfl
  · rcases List.mem_pair.1 hr with rfl | rfl
    · exact hcomparing rfl rfl
    · exact hcomparing rfl rfl

/-- An edge which touches another one in any direction shares a cell with it, and the other two
    rules forbid no more. -/
theorem isConflict_defaults_iff {a b : Action} :
    IsConflict [sameCell, following, touching] a b ↔ a.Touches b := by
  have hcases : IsConflict [sameCell, following, touching] a b ↔
      a.destination = b.destination ∨ a.destination = b.origin ∨ a.edge.overlaps b.edge := by
    rw [← evaluate_sameCell_iff, ← evaluate_following_iff, ← evaluate_touching_iff]
    simp [IsConflict, Rule.isSingle, sameCell, following, touching, comparing]
  rw [hcases, Action.touches_iff]
  simp only [Edge.overlaps, Action.edge, Bool.or_eq_true, beq_iff_eq]
  constructor
  · rintro (h | h | ((h | h) | h) | h) <;> simp [h]
  · rintro ((h | h) | h | h) <;> simp [h]

theorem isSymmetric_defaults (actions : List Action) :
    IsSymmetric [sameCell, following, touching] actions :=
  fun _ _ _ _ h => isConflict_defaults_iff.2 (isConflict_defaults_iff.1 h).symm

/-- Just those actions are in conflict which share a cell with another one; so no two actions which
    may be carried out share a cell. -/
structure KeepsApart (actions : List Action) (report : Report) : Prop where
  conflicting : ∀ (i : ℕ) a, actions[i]? = some a →
    (report.conflicting[i]? = some true ↔ ∃ j b, j ≠ i ∧ actions[j]? = some b ∧ a.Touches b)
  apart : ∀ (i j : ℕ) a b, i ≠ j → actions[i]? = some a → actions[j]? = some b →
    report.applicable[i]? = some true → report.applicable[j]? = some true →
    a.endpoints.Disjoint b.endpoints

variable {p : Policy} {isFree : Vertex → Bool} {actions : List Action} {report : Report}

theorem conflicting_ne_of_applicable {i : ℕ} (h : report.applicable[i]? = some true) :
    report.conflicting[i]? ≠ some true := by
  obtain ⟨v, hv, happlicable⟩ : ∃ v, report.verdicts[i]? = some v ∧ v.applicable := by
    simpa [applicable] using h
  simp [conflicting, hv, Verdict.applicable] at happlicable ⊢
  exact happlicable.2

theorem conflicting_iff_of_judge
    (h : (judge p (RuleSet.ofList [sameCell, following, touching]) isFree actions).result =
      .ok report) {i : ℕ} {a : Action} (ha : actions[i]? = some a) :
    report.conflicting[i]? = some true ↔ ∃ j b, j ≠ i ∧ actions[j]? = some b ∧ a.Touches b := by
  obtain ⟨v, hv, hverdict⟩ := exists_isVerdict h ha
  have hflag : report.conflicting[i]? = some true ↔ v.conflicting := by simp [conflicting, hv]
  rw [hflag, hverdict.conflicting]
  refine exists_congr fun j => ?_
  rw [inConflict_iff_of_symmetric (isSymmetric_defaults actions)]
  simp [ha, isConflict_defaults_iff, ne_comm]

theorem keepsApart_of_judge
    (h : (judge p (RuleSet.ofList [sameCell, following, touching]) isFree actions).result =
      .ok report) : report.KeepsApart actions where
  conflicting i a ha := conflicting_iff_of_judge h ha
  apart i j a b hne ha hb hi _ := by
    intro v hva hvb
    refine conflicting_ne_of_applicable hi ((conflicting_iff_of_judge h ha).2 ?_)
    exact ⟨j, b, hne.symm, hb, v, hva, hvb⟩

theorem exists_judge_defaults (p : Policy) (isFree : Vertex → Bool) (actions : List Action) :
    ∃ report, (judge p (RuleSet.ofList [sameCell, following, touching]) isFree actions).result =
      .ok report :=
  exists_judge_of_checked (fun _ => checked_of_mem_defaults) p isFree actions

/-- An agent goes on to the next cell. -/
def leader : Action := ⟨⟨1, 1⟩, ⟨1, 2⟩, 0, "Move", 0⟩

/-- An agent goes to the cell from which the other one starts. -/
def follower : Action := ⟨⟨1, 0⟩, ⟨1, 1⟩, 0, "Move", 1⟩

/-- The bundled rules can be read, and every joint action gets a report under them, which keeps the
    agents apart. If the actions are rearranged, then so are all flags of the report, although the
    rule against following, taken by itself, finds the follower only behind the leader. -/
theorem defaults_keepApart : ∃ rules, RuleFile.defaults.result = .ok rules ∧
    (∀ (p : Policy) (isFree : Vertex → Bool) (actions : List Action), ∃ report,
      (judge p (RuleSet.ofList rules) isFree actions).result = .ok report ∧
      report.KeepsApart actions ∧
      ∀ (σ : Equiv.Perm ℕ) (actions' : List Action), Rearranges σ actions actions' → ∃ report',
        (judge p (RuleSet.ofList rules) isFree actions').result = .ok report' ∧
        Rearranges σ report.occupied report'.occupied ∧
        Rearranges σ report.blocked report'.blocked ∧
        Rearranges σ report.conflicting report'.conflicting ∧
        Rearranges σ report.applicable report'.applicable) ∧
    following ∈ rules ∧
      (judge {} (RuleSet.ofList [following]) (fun _ => true) [leader, follower]).result =
        .ok ⟨[⟨false, false, true⟩, ⟨false, false, true⟩]⟩ ∧
      (judge {} (RuleSet.ofList [following]) (fun _ => true) [follower, leader]).result =
        .ok ⟨[⟨false, false, false⟩, ⟨false, false, false⟩]⟩ := by
  refine ⟨_, RuleFile.defaults_eq, fun p isFree actions => ?_, by simp, rfl, rfl⟩
  obtain ⟨report, hreport⟩ := exists_judge_defaults p isFree actions
  refine ⟨report, hreport, keepsApart_of_judge hreport, fun σ actions' hσ => ?_⟩
  obtain ⟨report', hreport'⟩ := exists_judge_defaults p isFree actions'
  have hverdicts := rearranges_verdicts (isSymmetric_defaults actions) hσ hreport hreport'
  exact ⟨report', hreport', hverdicts.map Verdict.occupied, hverdicts.map Verdict.blocked,
    hverdicts.map Verdict.conflicting, hverdicts.map Verdict.applicable⟩

end Report

end Interlock
