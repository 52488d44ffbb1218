import Interlock.Proofs.Predicate.Negation
import Interlock.Proofs.Report.Reordering
import Interlock.Proofs.Report.Search

/-!
# Rules which end with an `OR`

As chains are folded from the left, the last connector joins the last clause to the whole of what
stands before it. So a rule whose last connector is an `OR` fires just where a rule without the last
clause does, or one with the last clause alone. No report tells the one rule from the two.

* `Clause.alone`: a clause for a chain of its own. `Clause.evaluate_alone`: it comes to what its
  connector makes of it in the chain.
* `Predicate.test_concat`: a chain with one more clause. `Rule.WellFormed.exists_split`: a rule, and
  the two into which it falls.
* `Report.result_anyFires_split`: a search which meets the two rules in place of the one.
-/

namespace Interlock

/-! ## The last clause -/

namespace Clause

variable {c : Clause} {k : Connector}

/-- The clause as the first one of a chain. It has no connector, and if that was negated, then the
    operator is the opposite one. -/
def alone (c : Clause) : Clause where
  left := c.left
  operator := if c.connector.any Connector.negated then c.operator.opposite else c.operator
  right := c.right

theorem evaluate_alone (hk : c.connector = some k) (b : Bindings) :
    c.alone.evaluate b = (c.evaluate b).map k.turn := by
  have hvalue : c.alone.evaluate b =
      if k.negated then (c.evaluate b).map (!·) else c.evaluate b := by
    split
    · next hn => exact evaluate_of_opposite rfl (by simp [alone, hk, hn]) rfl
    · next hn => simp [alone, evaluate, hk, hn]
  rw [hvalue]
  rcases c.evaluate b with e | v
  · split <;> rfl
  · simp only [Except.map, Connector.turn]
    split <;> rfl

theorem WellTyped.alone (h : c.WellTyped) : c.alone.WellTyped := by
  unfold Clause.alone WellTyped
  split <;> exact h

end Clause

/-! ## Chains -/

namespace Predicate

variable {b : Bindings}

theorem testFrom_append (cs ds : List Clause) (index : Nat) (result : Bool) :
    testFrom b index result (cs ++ ds) =
      testFrom b index result cs >>= fun v => testFrom b (index + cs.length) v ds := by
  induction cs generalizing index result with
  | nil => rfl
  | cons c cs ih =>
    have hindex : index + (cs.length + 1) = index + 1 + cs.length := by omega
    simp only [List.cons_append, testFrom, bind_assoc, ih, List.length_cons, hindex]
    refine bind_congr fun value => ?_
    split
    · rfl
    · split
      · rfl
      · rfl

/-- The last clause of a chain is joined to the whole of the others. -/
theorem test_concat {p q : Predicate} {c : Clause} {k : Connector}
    (hp : p.clauses = q.clauses ++ [c]) (hk : c.connector = some k) (b : Bindings) :
    p.test b = do
      let v ← q.test b
      let w ← c.evaluate b
      return k.apply v w := by
  simp only [test, hp, testFrom_append, testFrom, hk]
  rfl

/-- A chain is that of its first clauses, with its last one alone joined to it. -/
theorem exists_split {p : Predicate} {first : List Clause} {last : Clause} {k : Connector}
    (hp : p.clauses = first ++ [last]) (hk : last.connector = some k) :
    ∃ q q' : Predicate, q.clauses = first ∧ q'.clauses = [last.alone] ∧ ∀ b, p.test b = do
      let v ← q.test b
      let w ← q'.test b
      return k.junction.join v w := by
  have hjoined : Joined (first ++ [last]) := hp ▸ p.joined
  have hfirst : Joined first := by
    rcases first with - | ⟨c, cs⟩
    · cases hk.symm.trans hjoined.1
    · exact ⟨hjoined.1, fun d hd => hjoined.2 d (List.mem_append_left _ hd)⟩
  obtain ⟨q, rfl⟩ : ∃ q : Predicate, q.clauses = first := ⟨⟨first, hfirst⟩, rfl⟩
  obtain ⟨q', hq'⟩ : ∃ q' : Predicate, q'.clauses = [last.alone] :=
    ⟨⟨[last.alone], rfl, by simp⟩, rfl⟩
  refine ⟨q, q', rfl, hq', fun b => ?_⟩
  rw [test_concat hp hk, test_of_singleton hq', Clause.evaluate_alone hk]
  simp only [bind_map, Connector.apply_eq]

end Predicate

/-! ## Rules -/

namespace Rule

variable {r : Rule} {q q' : Predicate}

theorem evaluate_of_test {f : Bool → Bool → Bool}
    (h : ∀ b, r.predicate.test b = do
      let v ← q.test b
      let w ← q'.test b
      return f v w) (x : Action) (y : Option Action) :
    r.evaluate x y = do
      let v ← (r.withPredicate q).evaluate x y
      let w ← (r.withPredicate q').evaluate x y
      return f v w := by
  obtain ⟨bindings, hr, hbindings⟩ := r.exists_evaluate_withPredicate x y
  rw [hr, hbindings, hbindings]
  rcases bindings with e | b
  · rfl
  · exact h b

/-- Clauses with the operands of those of a well-formed rule may take their place. -/
theorem WellFormed.withPredicate (h : r.WellFormed)
    (hq : ∀ c ∈ q.clauses, c.WellTyped ∧ ∃ d ∈ r.predicate.clauses, c.left = d.left ∧
      c.right = d.right) : (r.withPredicate q).WellFormed where
  requesting := h.requesting
  restricting := h.restricting
  wellNamed := by
    refine ⟨h.wellNamed.distinct, fun c hc => ?_⟩
    obtain ⟨-, d, hd, hleft, hright⟩ := hq c hc
    rw [Clause.names, hleft, hright]
    exact h.wellNamed.declared d hd
  writable c hc := by
    obtain ⟨-, d, hd, hleft, hright⟩ := hq c hc
    rw [hleft, hright]
    exact h.writable d hd
  wellTyped c hc := (hq c hc).1

/-- A well-formed rule comes to the results of two others, one without its last clause and one with
    this clause alone. -/
theorem WellFormed.exists_split (h : r.WellFormed) {first : List Clause} {last : Clause}
    {k : Connector} (hclauses : r.predicate.clauses = first ++ [last])
    (hk : last.connector = some k) :
    ∃ q q' : Predicate, q.clauses = first ∧ q'.clauses = [last.alone] ∧
      (r.withPredicate q).WellFormed ∧ (r.withPredicate q').WellFormed ∧
      ∀ (x : Action) (y : Option Action), r.isSingle ∨ y.isSome →
        ∃ v w, (r.withPredicate q).evaluate x y = .ok v ∧
          (r.withPredicate q').evaluate x y = .ok w ∧
          r.evaluate x y = .ok (k.junction.join v w) := by
  obtain ⟨q, q', hq, hq', htest⟩ := Predicate.exists_split hclauses hk
  have hlast : last ∈ r.predicate.clauses := by simp [hclauses]
  have hwf : (r.withPredicate q).WellFormed := h.withPredicate fun c hc => by
    have hmem : c ∈ r.predicate.clauses := by
      rw [hclauses, ← hq]
      exact List.mem_append_left _ hc
    exact ⟨h.wellTyped c hmem, c, hmem, rfl, rfl⟩
  have hwf' : (r.withPredicate q').WellFormed := h.withPredicate fun c hc => by
    rw [hq', List.mem_singleton] at hc
    rw [hc]
    exact ⟨(h.wellTyped last hlast).alone, last, hlast, rfl, rfl⟩
  refine ⟨q, q', hq, hq', hwf, hwf', fun x y hy => ?_⟩
  obtain ⟨v, hv⟩ := hwf.checked.exists_evaluate_eq x hy
  obtain ⟨w, hw⟩ := hwf'.checked.exists_evaluate_eq x hy
  refine ⟨v, w, hv, hw, ?_⟩
  rw [evaluate_of_test htest, hv, hw]
  rfl

end Rule

/-! ## Searches -/

namespace Report

variable {p : Policy} {r r₁ r₂ : Rule} {x : Action} {y : Option Action}

theorem result_anyFires_cons {v : Bool} (h : r.evaluate x y = .ok v) (rs : List Rule) :
    (anyFires p x y (r :: rs)).result =
      if v then .ok true else (anyFires p x y rs).result := by
  rw [anyFires, Traced.result_bind, result_fires_of_ok h]
  cases v <;> rfl

/-- A search comes to the same with two rules, one of which fires where another rule does, in place
    of this rule. -/
theorem result_anyFires_split
    (h : ∃ v w, r₁.evaluate x y = .ok v ∧ r₂.evaluate x y = .ok w ∧
      r.evaluate x y = .ok (v || w)) (before behind : List Rule) :
    (anyFires p x y (before ++ r :: behind)).result =
      (anyFires p x y (before ++ r₁ :: r₂ :: behind)).result := by
  obtain ⟨v, w, h₁, h₂, hr⟩ := h
  induction before with
  | nil =>
    rw [List.nil_append, List.nil_append, result_anyFires_cons hr, result_anyFires_cons h₁,
      result_anyFires_cons h₂]
    cases v <;> cases w <;> rfl
  | cons r' before ih =>
    simp only [List.cons_append, anyFires, Traced.result_bind]
    congr 1
    funext fired
    split
    · rfl
    · exact ih

/-- So it does in a part of a rule set, as all three rules are in the same one. -/
theorem result_anyFires_filter_split {keep : Rule → Bool} (h₁ : keep r₁ = keep r)
    (h₂ : keep r₂ = keep r)
    (h : keep r → ∃ v w, r₁.evaluate x y = .ok v ∧ r₂.evaluate x y = .ok w ∧
      r.evaluate x y = .ok (v || w)) (before behind : List Rule) :
    (anyFires p x y ((before ++ r :: behind).filter keep)).result =
      (anyFires p x y ((before ++ r₁ :: r₂ :: behind).filter keep)).result := by
  simp only [List.filter_append, List.filter_cons, h₁, h₂]
  split
  · next hkeep => exact result_anyFires_split (h hkeep) _ _
  · rfl

/-! ## Reports -/

/-- A rule which is read of a statement, and whose last clause is joined by `OR` or `OR NOT`, may be
    given as two rules with its names: one without the last clause, and one with this clause alone,
    negated for an `OR NOT`. Both are again rules of statements, and wherever they stand among other
    rules, each joint action gets the report that it gets from the one rule. -/
theorem judge_or_split {s : String} {r : Rule} (hread : (Rule.read s).result = .ok r)
    {first : List Clause} {last : Clause} {negated : Bool}
    (hclauses : r.predicate.clauses = first ++ [last])
    (hor : last.connector = some ⟨.or, negated⟩) :
    ∃ q q' : Predicate, Predicate.make first = .ok q ∧ Predicate.make [last.alone] = .ok q' ∧
      (Rule.read (r.withPredicate q).render).result = .ok (r.withPredicate q) ∧
      (Rule.read (r.withPredicate q').render).result = .ok (r.withPredicate q') ∧
      ∀ (before behind : List Rule) (p : Policy) (isFree : Vertex → Bool) (actions : List Action),
        (judge p (RuleSet.ofList (before ++ r :: behind)) isFree actions).result =
          (judge p (RuleSet.ofList
            (before ++ r.withPredicate q :: r.withPredicate q' :: behind)) isFree actions).result ∧
        ((∀ r' ∈ before ++ behind, ∃ s', (Rule.read s').result = .ok r') →
          ∃ report, (judge p (RuleSet.ofList (before ++ r :: behind)) isFree actions).result =
            .ok report) := by
  have hwf := Rule.wellFormed_of_read hread
  obtain ⟨q, q', hq, hq', hwfq, hwfq', hsplit⟩ := hwf.exists_split hclauses hor
  refine ⟨q, q', Predicate.make_eq_ok_iff.2 hq, Predicate.make_eq_ok_iff.2 hq', hwfq.read_render,
    hwfq'.read_render, fun before behind p isFree actions => ⟨?_, fun hothers => ?_⟩⟩
  · have hsingle : (r.withPredicate q).isSingle = r.isSingle ∧
        (r.withPredicate q').isSingle = r.isSingle := ⟨rfl, rfl⟩
    rw [RuleSet.ofList_eq, RuleSet.ofList_eq]
    refine result_judge_congr rfl (fun a => ?_) (fun a b => ?_) isFree actions
    · exact result_anyFires_filter_split hsingle.1 hsingle.2 (fun hr => hsplit a none (.inl hr))
        before behind
    · exact result_anyFires_filter_split (congrArg not hsingle.1) (congrArg not hsingle.2)
        (fun _ => hsplit a (some b) (.inr rfl)) before behind
  · refine exists_judge_of_checked (fun r' hr' => ?_) p isFree actions
    obtain rfl | hmem : r' = r ∨ r' ∈ before ++ behind := by
      simpa [or_left_comm] using hr'
    · exact hwf.checked
    · obtain ⟨s', hs'⟩ := hothers r' hmem
      exact (Rule.wellFormed_of_read hs').checked

/-- An agent may not follow another one, nor act at another time. -/
def followingOrApart : Rule :=
  Rule.following.withPredicate
    { clauses := Rule.following.predicate.clauses ++ [
        { left := .reference "a" .time, operator := ⟨.is, false, .number, Rule.supports_is_number⟩,
          right := .reference "b" .time, connector := some ⟨.or, true⟩ }]
      joined := by simp [Joined, Rule.following, Rule.comparing] }

/-- The rule against following alone would let the third agent act, as it follows no other. -/
theorem judge_or_split_followingOrApart :
    let apart := Rule.comparing .time ⟨.is, true, .number, Rule.supports_is_number⟩ .time
    let report : Report := ⟨[⟨false, false, true⟩, ⟨false, true, true⟩, ⟨false, false, true⟩]⟩
    (Rule.read followingOrApart.render).result = .ok followingOrApart ∧
      (∀ r ∈ [Rule.delayed 5], ∃ s, (Rule.read s).result = .ok r) ∧
      (judge {} (RuleSet.ofList [Rule.delayed 5, followingOrApart]) (fun _ => true)
        exchange).result = .ok report ∧
      (judge {} (RuleSet.ofList [Rule.delayed 5, Rule.following, apart]) (fun _ => true)
        exchange).result = .ok report ∧
      (judge {} (RuleSet.ofList [Rule.delayed 5, Rule.following]) (fun _ => true)
        exchange).result ≠ .ok report := by
  intro apart report
  have hread : (Rule.read followingOrApart.render).result = .ok followingOrApart := by
    decide +kernel
  have hothers : ∀ r ∈ [Rule.delayed 5], ∃ s, (Rule.read s).result = .ok r := by
    refine List.forall_mem_singleton.2 ⟨(Rule.delayed 5).render, ?_⟩
    decide +kernel
  obtain ⟨q, q', hq, hq', -, -, hsplit⟩ := judge_or_split hread rfl rfl
  obtain rfl : Rule.following.predicate = q :=
    Except.ok.inj ((Predicate.make_eq_ok_iff.2 rfl).symm.trans hq)
  obtain rfl : apart.predicate = q' :=
    Except.ok.inj ((Predicate.make_eq_ok_iff.2 rfl).symm.trans hq')
  obtain ⟨hequal, hexists⟩ := hsplit [Rule.delayed 5] [] {} (fun _ => true) exchange
  obtain ⟨report', hreport⟩ := hexists hothers
  obtain rfl : report = report' := Except.ok.inj hreport
  exact ⟨hread, hothers, hreport, hequal.symm.trans hreport, by decide⟩

end Report

end Interlock
