import Interlock.Proofs.Rule.Evaluation

/-!
# What rules read

A rule reads its actions through the fields to which its operands refer, and through no others. Two
pairs of actions which have the same values there come to the same: the rule fires for both, or for
neither, or fails for both with the same error.

* `Clause.Mentions`, `Predicate.Mentions`, `Rule.Mentions`: there is a reference to a field of a
  name.
* `Clause.evaluate_congr`, `Predicate.test_congr`: what is mentioned decides.
* `Rule.boundTo?`: the action which a rule binds to a name. `Rule.Agrees`: two pairs of actions
  agree on what a rule mentions. `Rule.Agrees.evaluate_eq`: they come to the same.
* `Rule.evaluate_eq_of_not_mentions_requesting`, `Rule.evaluate_eq_of_not_mentions_restricting`: a
  name without references stands for any action.
-/

namespace Interlock

/-! ## References -/

/-- An operand of the clause refers to the field of the name. -/
def Clause.Mentions (c : Clause) (n : String) (f : Field) : Prop :=
  c.left = .reference n f ∨ c.right = .reference n f

/-- A clause of the chain refers to the field of the name. -/
def Predicate.Mentions (p : Predicate) (n : String) (f : Field) : Prop :=
  ∃ c ∈ p.clauses, c.Mentions n f

/-- The rule refers to the field of the name. -/
def Rule.Mentions (r : Rule) (n : String) (f : Field) : Prop := r.predicate.Mentions n f

section Bindings

variable {b b' : Bindings}

theorem Operand.value_congr {o : Operand}
    (h : ∀ n f, o = .reference n f → b.resolve n f = b'.resolve n f) : o.value b = o.value b' := by
  cases o with
  | literal v => rfl
  | reference n f => exact h n f rfl

theorem Clause.evaluate_congr {c : Clause}
    (h : ∀ n f, c.Mentions n f → b.resolve n f = b'.resolve n f) :
    c.evaluate b = c.evaluate b' := by
  have hleft : c.left.value b = c.left.value b' :=
    Operand.value_congr fun n f hn => h n f (.inl hn)
  have hright : c.right.value b = c.right.value b' :=
    Operand.value_congr fun n f hn => h n f (.inr hn)
  rw [evaluate, evaluate, hleft, hright]

theorem Predicate.test_congr {p : Predicate}
    (h : ∀ n f, p.Mentions n f → b.resolve n f = b'.resolve n f) : p.test b = p.test b' := by
  obtain ⟨ks, hks⟩ := p.exists_connectors_eq
  have hvalues : p.clauses.mapM (Clause.evaluate b) = p.clauses.mapM (Clause.evaluate b') :=
    mapM_congr fun c hc => Clause.evaluate_congr fun n f hn => h n f ⟨c, hc, hn⟩
  rw [test_eq hks, test_eq hks, hvalues]

/-- The value of a field is all that is read of an action. -/
theorem Bindings.resolve_congr {n : String} {f : Field}
    (h : (b.action? n).map (·.field f) = (b'.action? n).map (·.field f)) :
    b.resolve n f = b'.resolve n f := by
  rw [resolve, resolve]
  generalize b.action? n = o, b'.action? n = o' at h
  rcases o with - | a <;> rcases o' with - | a'
  · rfl
  · cases h
  · cases h
  · exact congrArg Except.ok (Option.some.inj h)

end Bindings

/-! ## Rules -/

namespace Rule

variable {r : Rule} {x y x' y' : Action}

/-- The action which the rule binds to a name. The restricting one is bound last. -/
def boundTo? (r : Rule) (x y : Action) (n : String) : Option Action :=
  if r.restricting = some n then some y else if n = r.requesting then some x else none

theorem exists_bind_boundTo? (r : Rule) (x y : Action) :
    ∃ b, r.bind x (some y) = .ok ⟨b, r.predicate⟩ ∧ ∀ n, b.action? n = r.boundTo? x y n := by
  rcases hq : r.restricting with - | q
  · refine ⟨_, bind_of_none hq x (some y), fun n => ?_⟩
    simp only [Bindings.action?_bind, boundTo?, hq, reduceCtorEq, if_false]
    rfl
  · refine ⟨_, bind_of_some hq x y, fun n => ?_⟩
    rw [Bindings.action?_bind, Bindings.action?_bind, boundTo?, hq]
    simp only [Option.some.injEq, eq_comm (a := q)]
    rfl

/-- Two pairs of actions agree on the fields which the rule mentions. -/
def Agrees (r : Rule) (x y x' y' : Action) : Prop :=
  ∀ n f, r.Mentions n f →
    (r.boundTo? x y n).map (·.field f) = (r.boundTo? x' y' n).map (·.field f)

/-- A rule comes to the same for two pairs of actions which agree on what it mentions. -/
theorem Agrees.evaluate_eq (h : r.Agrees x y x' y') :
    r.evaluate x (some y) = r.evaluate x' (some y') := by
  obtain ⟨b, hb, hbound⟩ := r.exists_bind_boundTo? x y
  obtain ⟨b', hb', hbound'⟩ := r.exists_bind_boundTo? x' y'
  rw [evaluate, evaluate, hb, hb']
  refine Predicate.test_congr fun n f hn => Bindings.resolve_congr ?_
  rw [hbound, hbound']
  exact h n f hn

/-- A requesting name to which a rule does not refer stands for any action. -/
theorem evaluate_eq_of_not_mentions_requesting (h : ∀ f, ¬r.Mentions r.requesting f)
    (x x' y : Action) : r.evaluate x (some y) = r.evaluate x' (some y) := by
  refine Agrees.evaluate_eq fun n f hn => ?_
  have hne : n ≠ r.requesting := fun heq => h f (heq ▸ hn)
  rw [boundTo?, boundTo?, if_neg hne, if_neg hne]

/-- So does a restricting one, and a rule without one ignores the second action. -/
theorem evaluate_eq_of_not_mentions_restricting
    (h : ∀ q ∈ r.restricting, ∀ f, ¬r.Mentions q f) (x y y' : Action) :
    r.evaluate x (some y) = r.evaluate x (some y') := by
  refine Agrees.evaluate_eq fun n f hn => ?_
  have hne : r.restricting ≠ some n := fun heq => h n heq f hn
  rw [boundTo?, boundTo?, if_neg hne, if_neg hne]

/-- An applicability rule may be given a second action. -/
theorem evaluate_none_eq (h : r.isSingle) (x y : Action) :
    r.evaluate x none = r.evaluate x (some y) := by
  have hr : r.restricting = none := by simpa [isSingle] using h
  rw [evaluate, evaluate, bind_of_none hr, bind_of_none hr]

end Rule

end Interlock
