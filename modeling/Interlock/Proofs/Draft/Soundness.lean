import Interlock.Proofs.Rule.Evaluation
import Interlock.Proofs.Rule.RoundTrip

/-!
# What a draft gives can be evaluated

Whatever calls a draft gets, in whatever order and with whatever failures in between, it closes only
well-typed clauses. Before it gives a rule away, it checks that every name is declared, and before
it gives a bound rule, that every declared name has its action. So the evaluation of a rule which
was built, or read of a statement, never fails.

* `Draft.WellTyped`: the invariant. `Draft.WellTyped.apply`, `Draft.WellTyped.run`: calls keep it.
* `Draft.WellTyped.checked_of_toRule`, `Draft.WellTyped.exists_evaluate_of_build`: what a draft
  gives is checked.
* `Rule.IsBuilt`: the rule was read or built. `Rule.IsBuilt.checked`: such a rule is checked.
-/

namespace Interlock

namespace Draft

/-! ## The invariant -/

/-- The clauses which a draft has closed are well typed. -/
def WellTyped (d : Draft) : Prop := ∀ c ∈ d.clauses, c.WellTyped

theorem wellTyped_empty : empty.WellTyped := by simp [WellTyped, empty]

variable {d : Draft}

/-- One call keeps the invariant: a token closes a well-typed clause, or none at all. -/
theorem WellTyped.apply (h : d.WellTyped) (c : Call) : (d.apply c).1.WellTyped := by
  cases c with
  | declare key name =>
    rcases declare_cases d key name with ⟨err, heq⟩ | ⟨slot, heq⟩
    · rw [Draft.apply, heq]
      exact h
    · rw [Draft.apply, heq]
      cases slot <;> exact h
  | feed token =>
    rcases feed_cases d token with ⟨err, heq⟩ | ⟨e, he, heq⟩
    · rw [Draft.apply, heq]
      exact h
    · rw [Draft.apply, heq]
      cases he with
      | left o hd => exact h
      | operator o hd hl => exact h
      | right c hd hk hc => simpa [WellTyped, close, or_imp, forall_and] using ⟨h, hc⟩
      | connector k hd => exact h
  | bind slot a => cases slot <;> exact h

/-- So does any sequence of calls, of which some may fail. -/
theorem WellTyped.run (h : d.WellTyped) (cs : List Call) : (d.run cs).1.WellTyped := by
  induction cs generalizing d with
  | nil => exact h
  | cons c cs ih => exact ih (h.apply c)

/-! ## What a draft gives -/

theorem WellTyped.checked_of_toRule (h : d.WellTyped) {r : Rule} (hr : d.toRule = .ok r) :
    r.Checked := by
  obtain ⟨-, -, -, -, hclauses, hnames⟩ := toRule_eq_ok_iff.1 hr
  exact ⟨fun c hc => h c (hclauses ▸ hc), hnames⟩

/-- The name of a slot is bound if the slot has an action; all other names stay bound. -/
theorem binds_bindSlot {b : Bindings} {name : Option String} {a : Option Action} {n : String}
    (h : name = some n ∧ a ≠ none ∨ b.Binds n) : (bindSlot b name a).Binds n := by
  rcases name with - | m
  · simpa [bindSlot] using h
  · rcases a with - | a
    · simpa [bindSlot] using h
    · refine Bindings.binds_bind (h.imp_left ?_)
      rintro ⟨⟨⟩, -⟩
      rfl

/-- A bound rule which a draft gives has its names bound, and so it has a result. -/
theorem WellTyped.exists_evaluate_of_build (h : d.WellTyped) {b : BoundRule}
    (hb : d.build = .ok b) : ∃ v, b.evaluate = .ok v := by
  simp only [build, check, bind_eq_ok_iff] at hb
  obtain ⟨⟨⟩, ⟨⟨⟩, hdeclared, hcheck⟩, p, hp, hb⟩ := hb
  cases hb
  obtain ⟨-, -, -, -, hnames⟩ := checkDeclarations_eq_ok_iff.1 hdeclared
  have hclauses : p.clauses = d.clauses := Predicate.make_eq_ok_iff.1 hp
  -- The check asks for the first action, and for the second one where a second name is declared.
  have hrequesting : d.requesting ≠ none := by
    intro hnone
    simp [hnone] at hcheck
  have hrestricting {n : String} (hn : d.restrictingName = some n) : d.restricting ≠ none := by
    intro hnone
    simp [hn, hnone, Option.isNone_iff_eq_none, hrequesting] at hcheck
  refine Predicate.exists_test_eq fun c hc => ?_
  rw [hclauses] at hc
  refine Clause.exists_evaluate_eq (h c hc) fun n hn => binds_bindSlot ?_
  rcases declares_iff.1 (hnames c hc n hn) with hn | hn
  · exact .inr (binds_bindSlot (.inl ⟨hn, hrequesting⟩))
  · exact .inl ⟨hn, hrestricting hn⟩

end Draft

/-! ## Rules and bound rules -/

/-- The rule was read of a statement, or built by calls of a draft. -/
def Rule.IsBuilt (r : Rule) : Prop :=
  (∃ s, (Rule.read s).result = .ok r) ∨ ∃ calls, (Draft.empty.run calls).1.toRule = .ok r

theorem Rule.IsBuilt.checked {r : Rule} (h : r.IsBuilt) : r.Checked := by
  rcases h with ⟨s, hs⟩ | ⟨calls, hcalls⟩
  · exact (wellFormed_of_read hs).checked
  · exact (Draft.wellTyped_empty.run calls).checked_of_toRule hcalls

/-- Evaluation does not fail. A rule which was read of a statement or built by calls of a draft has
    a result for two actions, and one which declares a single name for one action; a conflict rule
    which gets one action misses the other. And a bound rule which was built by calls has a
    result. -/
theorem Rule.evaluate_of_isBuilt :
    (∀ r : Rule, r.IsBuilt → ∀ x : Action,
      (∀ y, ∃ v, r.evaluate x (some y) = .ok v) ∧
      (r.isSingle → ∃ v, r.evaluate x none = .ok v) ∧
      (¬r.isSingle → r.evaluate x none = .error { cause := .missingBinding "restricting" })) ∧
    ∀ (calls : List Draft.Call) (b : BoundRule), (Draft.empty.run calls).1.build = .ok b →
      ∃ v, b.evaluate = .ok v := by
  refine ⟨fun r hr x => ⟨fun y => ?_, fun hsingle => ?_, fun hconflict => ?_⟩, fun calls b hb => ?_⟩
  · exact hr.checked.exists_evaluate_eq x (.inr rfl)
  · exact hr.checked.exists_evaluate_eq x (.inl hsingle)
  · exact evaluate_none hconflict x
  · exact (Draft.wellTyped_empty.run calls).exists_evaluate_of_build hb

/-- An agent waits at a cell. -/
def Action.waiting (agent : Int64) : Action := ⟨⟨1, 1⟩, ⟨1, 1⟩, 0, "NoOp", agent⟩

/-- Calls which build the rule against equal cells, one of which fails, and bind two actions to
    it. -/
def Draft.sameCellCalls : List Draft.Call :=
  [.declare "entry1" "a", .feed "a.dest", .feed "OVERLAPS WITH", .feed "IS", .declare "entry2" "b",
    .feed "b.dest", .bind .requesting (.waiting 0), .bind .restricting (.waiting 1)]

/-- The rule and the bound rule of these calls have results, and the rule misses an action if it
    gets only one. -/
theorem Rule.evaluate_sameCell :
    sameCell.IsBuilt ∧ (∃ v, sameCell.evaluate (.waiting 0) (some (.waiting 1)) = .ok v) ∧
      sameCell.evaluate (.waiting 0) none = .error { cause := .missingBinding "restricting" } ∧
      ∃ b, (Draft.empty.run Draft.sameCellCalls).1.build = .ok b ∧ ∃ v, b.evaluate = .ok v := by
  have hbuilt : sameCell.IsBuilt := .inr ⟨Draft.sameCellCalls, rfl⟩
  obtain ⟨hpair, -, hnone⟩ := evaluate_of_isBuilt.1 sameCell hbuilt (.waiting 0)
  have hbuild : (Draft.empty.run Draft.sameCellCalls).1.build =
      .ok ⟨⟨[("a", .waiting 0), ("b", .waiting 1)]⟩, sameCell.predicate⟩ := rfl
  exact ⟨hbuilt, hpair (.waiting 1), hnone (by decide), _, hbuild,
    evaluate_of_isBuilt.2 Draft.sameCellCalls _ hbuild⟩

end Interlock
