import Interlock.Proofs.Predicate.Fold
import Interlock.Rule

/-!
# Evaluation does not fail

Whether a clause can be evaluated is settled before any action is known: its operands have to be of
the type of its operator, and the names to which it refers have to be bound.

* `Operator.exists_apply_eq`: an operator compares any two values of its type.
* `Clause.exists_evaluate_eq`, `Predicate.exists_test_eq`: a clause, and a chain of clauses, has a
  result under bindings of its names.
* `Rule.Checked`: a rule whose clauses are well typed and refer to its names.
  `Rule.Checked.exists_evaluate_eq`: it has a result for any actions, if there are as many as it
  declares names. `Rule.evaluate_none`: a conflict rule has none for a single action.
* `Rule.withPredicate`: a rule with the names of another one.
-/

namespace Interlock

/-! ## Comparisons -/

theorem Comparison.exists_compare?_eq {c : Comparison} {l r : Value} (hc : c.supports l.type)
    (h : r.type = l.type) : ∃ v, c.compare? l r = some v := by
  cases c <;> cases l <;> cases hc <;> cases r <;> cases h <;> exact ⟨_, rfl⟩

theorem Operator.exists_apply_eq {o : Operator} {l r : Value} (hl : l.type = o.type)
    (hr : r.type = o.type) : ∃ v, o.apply l r = .ok v := by
  obtain ⟨v, hv⟩ := Comparison.exists_compare?_eq (hl ▸ o.supported) (hr.trans hl.symm)
  refine ⟨v != o.negated, ?_⟩
  rw [apply, if_neg (by simp [hl]), if_neg (by simp [hr]), hv]

/-! ## Clauses -/

/-- An action is bound to the name. -/
def Bindings.Binds (b : Bindings) (n : String) : Prop := ∃ a, b.action? n = some a

variable {b : Bindings}

theorem Operand.exists_value_eq {o : Operand} (h : ∀ n ∈ o.name?, b.Binds n) :
    ∃ v, o.value b = .ok v := by
  cases o with
  | literal v => exact ⟨v, rfl⟩
  | reference n f =>
    obtain ⟨a, ha⟩ := h n rfl
    exact ⟨a.field f, by simp [value, Bindings.resolve, ha]⟩

theorem Clause.exists_evaluate_eq {c : Clause} (hc : c.WellTyped)
    (hb : ∀ n ∈ c.names, b.Binds n) : ∃ v, c.evaluate b = .ok v := by
  obtain ⟨l, hl⟩ := Operand.exists_value_eq (b := b) (o := c.left) fun n hn =>
    hb n (List.mem_append_left _ (by simpa using hn))
  obtain ⟨r, hr⟩ := Operand.exists_value_eq (b := b) (o := c.right) fun n hn =>
    hb n (List.mem_append_right _ (by simpa using hn))
  obtain ⟨v, hv⟩ := Operator.exists_apply_eq ((Operand.type_value hl).trans hc.1)
    ((Operand.type_value hr).trans hc.2)
  refine ⟨v, ?_⟩
  rw [evaluate, hl, hr]
  exact hv

/-! ## Chains -/

namespace Predicate

theorem exists_test_eq {p : Predicate} (h : ∀ c ∈ p.clauses, ∃ v, c.evaluate b = .ok v) :
    ∃ v, p.test b = .ok v := by
  obtain ⟨ks, hks⟩ := p.exists_connectors_eq
  obtain ⟨values, hvalues⟩ := exists_mapM_eq h
  exact ⟨fold ks values, by rw [test_eq hks, hvalues]; rfl⟩

end Predicate

/-! ## Rules -/

/-- The clauses are well typed, and refer to the names of the rule. -/
structure Rule.Checked (r : Rule) : Prop where
  wellTyped : ∀ c ∈ r.predicate.clauses, c.WellTyped
  declared : ∀ c ∈ r.predicate.clauses, ∀ n ∈ c.names,
    n = r.requesting ∨ r.restricting = some n

theorem Bindings.binds_bind {n m : String} {a : Action} (h : n = m ∨ b.Binds n) :
    (b.bind m a).Binds n := by
  rw [Binds, action?_bind]
  split
  · exact ⟨a, rfl⟩
  · next hne => exact h.resolve_left hne

namespace Rule

variable {r : Rule}

theorem Checked.exists_test_eq (h : r.Checked)
    (hb : ∀ n, n = r.requesting ∨ r.restricting = some n → b.Binds n) :
    ∃ v, r.predicate.test b = .ok v :=
  Predicate.exists_test_eq fun c hc =>
    Clause.exists_evaluate_eq (h.wellTyped c hc) fun n hn => hb n (h.declared c hc n hn)

theorem bind_of_none (h : r.restricting = none) (x : Action) (y : Option Action) :
    r.bind x y = .ok ⟨Bindings.empty.bind r.requesting x, r.predicate⟩ := by
  simp [bind, h]

theorem bind_of_some {q : String} (h : r.restricting = some q) (x y : Action) :
    r.bind x (some y) = .ok ⟨(Bindings.empty.bind r.requesting x).bind q y, r.predicate⟩ := by
  simp [bind, h]

/-- A rule is bound to actions if there are as many as it declares names, and then each of its
    names is bound. -/
theorem exists_bind_eq (r : Rule) (x : Action) {y : Option Action} (hy : r.isSingle ∨ y.isSome) :
    ∃ b, r.bind x y = .ok ⟨b, r.predicate⟩ ∧
      ∀ n, n = r.requesting ∨ r.restricting = some n → b.Binds n := by
  rcases hq : r.restricting with - | q
  · exact ⟨_, bind_of_none hq x y, fun n hn => Bindings.binds_bind (.inl (hn.resolve_right nofun))⟩
  · rcases y with - | y
    · simp [isSingle, hq] at hy
    · refine ⟨_, bind_of_some hq x y, fun n hn => ?_⟩
      -- The later binding leaves the earlier name bound, even if the two names are the same.
      rcases hn with rfl | hn
      · exact Bindings.binds_bind (.inr (Bindings.binds_bind (.inl rfl)))
      · exact Bindings.binds_bind (.inl (Option.some.inj hn).symm)

/-- A checked rule has a result for two actions, and for one if it declares no second name. -/
theorem Checked.exists_evaluate_eq (h : r.Checked) (x : Action) {y : Option Action}
    (hy : r.isSingle ∨ y.isSome) : ∃ v, r.evaluate x y = .ok v := by
  obtain ⟨b, hb, hbinds⟩ := r.exists_bind_eq x hy
  rw [evaluate, hb]
  exact h.exists_test_eq hbinds

/-- A conflict rule lacks an action if there is only one. -/
theorem evaluate_none (h : ¬r.isSingle) (x : Action) :
    r.evaluate x none = .error { cause := .missingBinding "restricting" } := by
  obtain ⟨q, hq⟩ : ∃ q, r.restricting = some q := by
    simpa [isSingle, Option.ne_none_iff_exists'] using h
  simp [evaluate, bind, hq, Slot.role, Bind.bind, Except.bind]

/-- The rule with another predicate under its names. -/
def withPredicate (r : Rule) (q : Predicate) : Rule := { r with predicate := q }

/-- Which actions are bound to its names does not depend on the predicate of a rule. -/
theorem exists_evaluate_withPredicate (r : Rule) (x : Action) (y : Option Action) :
    ∃ bindings : Except Error Bindings,
      (r.evaluate x y = bindings >>= fun b => r.predicate.test b) ∧
      ∀ q, (r.withPredicate q).evaluate x y = bindings >>= fun b => q.test b := by
  simp only [evaluate, bind, withPredicate]
  rcases r.restricting with - | n
  · exact ⟨.ok _, rfl, fun q => rfl⟩
  · rcases y with - | y
    · exact ⟨.error _, rfl, fun q => rfl⟩
    · exact ⟨.ok _, rfl, fun q => rfl⟩

theorem supports_is_vertex : Comparison.is.supports .vertex := rfl

theorem supports_is_number : Comparison.is.supports .number := rfl

/-- Two agents may not end a step in the same cell. -/
def sameCell : Rule where
  requesting := "a"
  restricting := some "b"
  predicate :=
    { clauses := [
        { left := .reference "a" .destination, operator := ⟨.is, false, .vertex, rfl⟩,
          right := .reference "b" .destination }]
      joined := by simp [Joined] }

end Rule

end Interlock
