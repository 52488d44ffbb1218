import Interlock.Proofs.Report.Reordering
import Mathlib.Data.List.NodupEquivFin
import Mathlib.Order.MinMax

/-!
# More rules and fewer actions

A search for a rule ends at the first one which fires, and the two kinds of rules stand in lists of
their own. But whether a search succeeds depends on which rules there are, and not on their order or
on how often one of them stands there. So further rules make the verdicts stricter, and the same
rules in another order make the same report. Actions which are left out of a step take their
conflicts with them, and change nothing else for the others.

* `Verdict.Tightens`, `Report.Tightens`: another verdict, or report, allows no more.
  `Report.IsVerdict.tightens`: so it is with further rules.
* `Selects`: the elements of a list at some of its places, in their order.
* `Report.IsPartOf`: what the report on some actions of a step says of them.
  `Report.InConflict.of_selects`: their conflicts are conflicts of the whole step.
-/

namespace Interlock

/-! ## Stricter verdicts -/

/-- The second verdict allows no more than the first one, and says the same of the cell to which the
    action goes. -/
structure Verdict.Tightens (v w : Verdict) : Prop where
  occupied : v.occupied = w.occupied
  blocked : v.blocked → w.blocked
  conflicting : v.conflicting → w.conflicting

theorem Verdict.applicable_iff {v : Verdict} :
    v.applicable ↔ ¬v.occupied ∧ ¬v.blocked ∧ ¬v.conflicting := by
  simp [applicable, and_assoc]

theorem Verdict.Tightens.applicable {v w : Verdict} (h : v.Tightens w) (hw : w.applicable) :
    v.applicable := by
  obtain ⟨hoccupied, hblocked, hconflicting⟩ := applicable_iff.1 hw
  exact applicable_iff.2 ⟨by rwa [h.occupied], mt h.blocked hblocked, mt h.conflicting hconflicting⟩

theorem Verdict.Tightens.antisymm {v w : Verdict} (h : v.Tightens w) (h' : w.Tightens v) :
    v = w := by
  have hoccupied := h.occupied
  have hblocked : v.blocked = w.blocked := Bool.eq_iff_iff.2 ⟨h.blocked, h'.blocked⟩
  have hconflicting : v.conflicting = w.conflicting :=
    Bool.eq_iff_iff.2 ⟨h.conflicting, h'.conflicting⟩
  cases v
  cases w
  simp_all

namespace Report

variable {p : Policy} {rules rules' : List Rule} {isFree : Vertex → Bool}
  {actions part : List Action} {report report' : Report}

/-! ## Further rules -/

/-- The second report allows no more than the first one: it says the same of the cells to which the
    actions go, blocks every action which the first one blocks, and finds every action in conflict
    which the first one does. So what may be carried out under the second one may be under both. -/
structure Tightens (report report' : Report) : Prop where
  occupied : report.occupied = report'.occupied
  blocked : ∀ i : ℕ, report.blocked[i]? = some true → report'.blocked[i]? = some true
  conflicting : ∀ i : ℕ, report.conflicting[i]? = some true → report'.conflicting[i]? = some true
  applicable : ∀ i : ℕ, report'.applicable[i]? = some true → report.applicable[i]? = some true

theorem IsBlocked.mono (h : rules ⊆ rules') {a : Action} (ha : IsBlocked rules a) :
    IsBlocked rules' a := by
  obtain ⟨r, hr, hfires⟩ := ha
  exact ⟨r, h hr, hfires⟩

theorem IsConflict.mono (h : rules ⊆ rules') {a b : Action} (hab : IsConflict rules a b) :
    IsConflict rules' a b := by
  obtain ⟨r, hr, hfires⟩ := hab
  exact ⟨r, h hr, hfires⟩

theorem InConflict.mono (h : rules ⊆ rules') {i j : ℕ} (hij : InConflict rules actions i j) :
    InConflict rules' actions i j := by
  obtain ⟨hne, a, b, ha, hb, hconflict⟩ := hij
  exact ⟨hne, a, b, ha, hb, hconflict.mono h⟩

theorem IsVerdict.tightens (h : rules ⊆ rules') {i : ℕ} {a : Action} {v w : Verdict}
    (hv : IsVerdict p rules isFree actions i a v) (hw : IsVerdict p rules' isFree actions i a w) :
    v.Tightens w where
  occupied := hv.occupied_eq hw
  blocked hb := hw.blocked.2 ((hv.blocked.1 hb).mono h)
  conflicting hc := by
    obtain ⟨j, hj⟩ := hv.conflicting.1 hc
    exact hw.conflicting.2 ⟨j, hj.mono h⟩

theorem tightens_of_subset (h : rules ⊆ rules')
    (hreport : (judge p (RuleSet.ofList rules) isFree actions).result = .ok report)
    (hreport' : (judge p (RuleSet.ofList rules') isFree actions).result = .ok report') :
    report.Tightens report' where
  occupied := List.ext_getElem? fun _ =>
    getElem?_map_verdicts_eq hreport hreport' rfl fun _ _ _ hv hw => (hv.tightens h hw).occupied
  blocked _ :=
    getElem?_map_verdicts_mono hreport hreport' rfl fun _ _ _ hv hw => (hv.tightens h hw).blocked
  conflicting _ :=
    getElem?_map_verdicts_mono hreport hreport' rfl fun _ _ _ hv hw =>
      (hv.tightens h hw).conflicting
  applicable _ :=
    getElem?_map_verdicts_mono hreport' hreport rfl fun _ _ _ hw hv =>
      (hv.tightens h hw).applicable

/-- The same rules make the same report, in any order and any number. -/
theorem eq_of_subset_of_subset (h : rules ⊆ rules') (h' : rules' ⊆ rules)
    (hreport : (judge p (RuleSet.ofList rules) isFree actions).result = .ok report)
    (hreport' : (judge p (RuleSet.ofList rules') isFree actions).result = .ok report') :
    report = report' := by
  have hverdicts : report.verdicts = report'.verdicts := by
    refine List.ext_getElem? fun i => ?_
    have hid := getElem?_map_verdicts_eq (f := id) (i := i) hreport hreport' rfl
      fun a v w hv hw => (hv.tightens h hw).antisymm (hw.tightens h' hv)
    rwa [List.map_id, List.map_id] at hid
  exact congrArg Report.mk hverdicts

end Report

/-! ## Fewer actions -/

/-- The second list has the elements of the first one at some of its places, in their order: at each
    place stands what the first one has at the place to which the embedding sends it. -/
def Selects {α : Type} (f : ℕ ↪o ℕ) (xs ys : List α) : Prop := ∀ i : ℕ, ys[i]? = xs[f i]?

theorem exists_selects_iff {α : Type} {xs ys : List α} :
    (∃ f, Selects f xs ys) ↔ ys.Sublist xs :=
  List.sublist_iff_exists_orderEmbedding_getElem?_eq.symm

namespace Report

variable {f : ℕ ↪o ℕ}

/-- The first report is on actions at some places of the second one. What it says of an action by
    itself, the second one says too, and a conflict which it finds, the second one finds too. -/
structure IsPartOf (f : ℕ ↪o ℕ) (report whole : Report) : Prop where
  occupied : ∀ i : ℕ, report.occupied[i]? = whole.occupied[f i]?
  blocked : ∀ i : ℕ, report.blocked[i]? = whole.blocked[f i]?
  conflicting : ∀ i : ℕ, report.conflicting[i]? = some true → whole.conflicting[f i]? = some true

/-- Places in order are sent to places in order, so that the same one of two actions requests. -/
theorem InConflict.of_selects (h : Selects f actions part) {i j : ℕ}
    (hij : InConflict rules part i j) : InConflict rules actions (f i) (f j) := by
  obtain ⟨hne, a, b, ha, hb, hconflict⟩ := hij
  refine ⟨f.injective.ne hne, a, b, ?_, ?_, hconflict⟩
  · rw [← f.monotone.map_max, ← h, ha]
  · rw [← f.monotone.map_min, ← h, hb]

theorem isPartOf_of_selects {small : Report} (h : Selects f actions part)
    (hsmall : (judge p (RuleSet.ofList rules) isFree part).result = .ok small)
    (hreport : (judge p (RuleSet.ofList rules) isFree actions).result = .ok report) :
    small.IsPartOf f report where
  occupied i :=
    getElem?_map_verdicts_eq hsmall hreport (h i).symm fun _ _ _ hv hw => hv.occupied_eq hw
  blocked i :=
    getElem?_map_verdicts_eq hsmall hreport (h i).symm fun _ _ _ hv hw => hv.blocked_eq hw
  conflicting i := by
    refine getElem?_map_verdicts_mono hsmall hreport (h i).symm fun a v w hv hw hc => ?_
    obtain ⟨j, hj⟩ := hv.conflicting.1 hc
    exact hw.conflicting.2 ⟨f j, hj.of_selects h⟩

/-- A joint action is judged by the rules that there are, whatever their order and number: further
    rules tighten the report, and the same rules do not change it. If only some of the actions are
    judged, then the report says of each of them what it says in the whole step, but for conflicts
    with actions which were left out. -/
theorem judge_mono (hrules : ∀ r ∈ rules, r.Evaluates) (hrules' : ∀ r ∈ rules', r.Evaluates)
    (p : Policy) (isFree : Vertex → Bool) (actions : List Action) :
    ∃ report report', (judge p (RuleSet.ofList rules) isFree actions).result = .ok report ∧
      (judge p (RuleSet.ofList rules') isFree actions).result = .ok report' ∧
      (rules ⊆ rules' → report.Tightens report') ∧
      ((∀ r, r ∈ rules ↔ r ∈ rules') → report = report') ∧
      ∀ part : List Action, part.Sublist actions → (∃ f, Selects f actions part) ∧
        ∃ small, (judge p (RuleSet.ofList rules) isFree part).result = .ok small ∧
          ∀ f, Selects f actions part → small.IsPartOf f report := by
  obtain ⟨report, hreport⟩ := exists_judge_of_evaluates hrules p isFree actions
  obtain ⟨report', hreport'⟩ := exists_judge_of_evaluates hrules' p isFree actions
  refine ⟨report, report', hreport, hreport', fun h => tightens_of_subset h hreport hreport',
    fun h => ?_, fun part hpart => ⟨exists_selects_iff.2 hpart, ?_⟩⟩
  · exact eq_of_subset_of_subset (fun r hr => (h r).1 hr) (fun r hr => (h r).2 hr) hreport hreport'
  · obtain ⟨small, hsmall⟩ := exists_judge_of_evaluates hrules p isFree part
    exact ⟨small, hsmall, fun f hf => isPartOf_of_selects hf hsmall hreport⟩

/-- The place of the second agent of an exchange is passed over. -/
def passSecond : ℕ ↪o ℕ :=
  OrderEmbedding.ofStrictMono (fun i => if i = 0 then 0 else i + 1) fun i j h => by grind

theorem judge_mono_exchange :
    (∀ r ∈ [Rule.following], r.Evaluates) ∧
      (∀ r ∈ [Rule.following, Rule.delayed 5, Rule.following], r.Evaluates) ∧
      [Rule.following] ⊆ [Rule.following, Rule.delayed 5, Rule.following] ∧
      Selects passSecond exchange [exchange[0], exchange[2]] ∧
      ∃ report', (judge {} (RuleSet.ofList [Rule.following, Rule.delayed 5, Rule.following])
          (· != ⟨3, 4⟩) exchange).result = .ok report' ∧
        Tightens ⟨[⟨false, false, true⟩, ⟨false, false, true⟩, ⟨true, false, false⟩]⟩ report' ∧
        ∃ small, (judge {} (RuleSet.ofList [Rule.following]) (· != ⟨3, 4⟩)
            [exchange[0], exchange[2]]).result = .ok small ∧
          small.IsPartOf passSecond
            ⟨[⟨false, false, true⟩, ⟨false, false, true⟩, ⟨true, false, false⟩]⟩ := by
  have hrules : ∀ r ∈ [Rule.following], r.Evaluates := by decide
  have hrules' : ∀ r ∈ [Rule.following, Rule.delayed 5, Rule.following], r.Evaluates := by decide
  have hsubset : [Rule.following] ⊆ [Rule.following, Rule.delayed 5, Rule.following] := by simp
  have hselects : Selects passSecond exchange [exchange[0], exchange[2]] := by
    rintro (- | - | i)
    · rfl
    · rfl
    · rfl
  obtain ⟨report, report', hreport, hreport', htightens, -, hparts⟩ :=
    judge_mono hrules hrules' {} (· != ⟨3, 4⟩) exchange
  obtain rfl : ⟨[⟨false, false, true⟩, ⟨false, false, true⟩, ⟨true, false, false⟩]⟩ = report :=
    Except.ok.inj hreport
  obtain ⟨-, small, hsmall, hpart⟩ := hparts _ (exists_selects_iff.1 ⟨_, hselects⟩)
  exact ⟨hrules, hrules', hsubset, hselects, report', hreport', htightens hsubset, small, hsmall,
    hpart _ hselects⟩

end Report

end Interlock
