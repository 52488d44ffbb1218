import Interlock.Proofs.Rule.Evaluation

/-!
# Which rules fail

All clauses of a rule are evaluated before their results are joined, and a clause fails for the
names which are bound and for the types of its operands, whatever the values are. So whether a rule
fails, and with which error, is the same for all actions.

* `FailAlike`: two computations fail with the same error, or neither does. `FailAlike.bind`: they
  are made of steps which fail alike.
* `Clause.failAlike_evaluate`, `Predicate.failAlike_test`: so do clauses and chains of clauses,
  if the same names are bound.
* `Rule.failAlike_evaluate`: so does a rule for any actions. `Rule.Evaluates`: the rules which do
  not fail.
-/

namespace Interlock

/-! ## Computations which fail alike -/

section FailAlike

variable {ε α β γ δ : Type}

/-- The two computations fail with the same error, or neither of them fails. -/
def FailAlike (x : Except ε α) (y : Except ε β) : Prop := ∀ e, x = .error e ↔ y = .error e

theorem failAlike_error (e : ε) : FailAlike (.error e : Except ε α) (.error e : Except ε β) := by
  simp [FailAlike]

theorem failAlike_ok (a : α) (b : β) :
    FailAlike (.ok a : Except ε α) (.ok b : Except ε β) := by
  simp [FailAlike]

theorem FailAlike.bind {x : Except ε α} {y : Except ε β} {f : α → Except ε γ} {g : β → Except ε δ}
    (h : FailAlike x y) (hfg : ∀ a b, x = .ok a → y = .ok b → FailAlike (f a) (g b)) :
    FailAlike (x >>= f) (y >>= g) := by
  rcases x with e | a
  · cases (h e).1 rfl
    exact failAlike_error e
  · rcases y with e | b
    · cases (h e).2 rfl
    · exact hfg a b rfl rfl

theorem FailAlike.exists_ok_iff {x : Except ε α} {y : Except ε β} (h : FailAlike x y) :
    (∃ a, x = .ok a) ↔ ∃ b, y = .ok b := by
  rcases x with e | a
  · simp [(h e).1 rfl]
  · rcases y with e | b
    · cases (h e).2 rfl
    · simp

end FailAlike

/-! ## Clauses -/

/-- The same names are bound. -/
def Bindings.SameNames (b b' : Bindings) : Prop := ∀ n, b.Binds n ↔ b'.Binds n

theorem Bindings.SameNames.bind {b b' : Bindings} (h : b.SameNames b') (n : String)
    (a a' : Action) : (b.bind n a).SameNames (b'.bind n a') := by
  intro m
  simp only [Binds, action?_bind]
  split
  · simp
  · exact h m

/-- An operator fails for the types of the values alone. -/
theorem Operator.failAlike_apply (o : Operator) {l l' r r' : Value} (hl : l.type = l'.type)
    (hr : r.type = r'.type) : FailAlike (o.apply l r) (o.apply l' r') := by
  by_cases hlo : l.type = o.type
  · by_cases hro : r.type = o.type
    · obtain ⟨v, hv⟩ := exists_apply_eq hlo hro
      obtain ⟨v', hv'⟩ := exists_apply_eq (hl ▸ hlo) (hr ▸ hro)
      rw [hv, hv']
      exact failAlike_ok v v'
    · rw [apply, apply, if_neg (by simp [hlo]), if_pos hro, if_neg (by simp [← hl, hlo]),
        if_pos (hr ▸ hro), mismatch, mismatch, hr]
      exact failAlike_error _
  · rw [apply, apply, if_pos hlo, if_pos (hl ▸ hlo), mismatch, mismatch, hl]
    exact failAlike_error _

variable {b b' : Bindings}

theorem Bindings.action?_eq_none {n : String} (h : ¬b.Binds n) : b.action? n = none := by
  simpa [Binds, Option.eq_none_iff_forall_ne_some] using h

theorem Operand.failAlike_value (h : b.SameNames b') (o : Operand) :
    FailAlike (o.value b) (o.value b') := by
  cases o with
  | literal v => exact failAlike_ok v v
  | reference n f =>
    rw [value, value, Bindings.resolve, Bindings.resolve]
    by_cases hn : b.Binds n
    · obtain ⟨a', ha'⟩ := (h n).1 hn
      obtain ⟨a, ha⟩ := hn
      rw [ha, ha']
      exact failAlike_ok _ _
    · rw [Bindings.action?_eq_none hn, Bindings.action?_eq_none (mt (h n).2 hn)]
      exact failAlike_error _

theorem Clause.failAlike_evaluate (h : b.SameNames b') (c : Clause) :
    FailAlike (c.evaluate b) (c.evaluate b') := by
  refine (c.left.failAlike_value h).bind fun l l' hl hl' => ?_
  refine (c.right.failAlike_value h).bind fun r r' hr hr' => ?_
  -- The values of an operand have its type, under all bindings.
  exact c.operator.failAlike_apply
    ((Operand.type_value hl).trans (Operand.type_value hl').symm)
    ((Operand.type_value hr).trans (Operand.type_value hr').symm)

/-! ## Chains -/

/-- The values of the clauses do not matter, as all clauses are evaluated before any two values are
    joined. -/
theorem Predicate.failAlike_test (h : b.SameNames b') (p : Predicate) :
    FailAlike (p.test b) (p.test b') := by
  obtain ⟨ks, hks⟩ := p.exists_connectors_eq
  have halike (c : Clause) := c.failAlike_evaluate h
  intro err
  simp only [test_eq hks, map_eq_error_iff, mapM_eq_error_iff, fun c => (halike c).exists_ok_iff,
    fun c => halike c err]

/-! ## Rules -/

namespace Rule

variable {r : Rule}

/-- A rule fails alike for all actions, if there are as many as it reads. -/
theorem failAlike_evaluate {x x' : Action} {y y' : Option Action}
    (h : r.isSingle ∨ y.isSome = y'.isSome) :
    FailAlike (r.evaluate x y) (r.evaluate x' y') := by
  have hempty : Bindings.empty.SameNames Bindings.empty := fun _ => Iff.rfl
  have hfirst := hempty.bind r.requesting x x'
  rcases hq : r.restricting with - | q
  · rw [evaluate, evaluate, bind_of_none hq, bind_of_none hq]
    exact r.predicate.failAlike_test hfirst
  · have hsingle : ¬r.isSingle := by simp [isSingle, hq]
    have hsome := h.resolve_left hsingle
    rcases y with - | y
    · obtain rfl : y' = none := by simpa using hsome.symm
      rw [evaluate_none hsingle, evaluate_none hsingle]
      exact failAlike_error _
    · obtain ⟨y', rfl⟩ : ∃ z, y' = some z := by simpa [Option.isSome_iff_exists] using hsome.symm
      rw [evaluate, evaluate, bind_of_some hq, bind_of_some hq]
      exact r.predicate.failAlike_test (hfirst.bind q y y')

/-- The rule has a result for any two actions. -/
def Evaluates (r : Rule) : Prop := ∀ x y, ∃ v, r.evaluate x (some y) = .ok v

/-- Any actions tell whether a rule fails, if there are as many as it reads. -/
theorem evaluates_iff {x : Action} {y : Option Action} (h : r.isSingle ∨ y.isSome) :
    r.Evaluates ↔ ∃ v, r.evaluate x y = .ok v := by
  have halike (x' y' : Action) : FailAlike (r.evaluate x' (some y')) (r.evaluate x y) :=
    failAlike_evaluate (h.imp_right fun hy => by simp [hy])
  exact ⟨fun hr => (halike x x).exists_ok_iff.1 (hr x x), fun hv x' y' =>
    (halike x' y').exists_ok_iff.2 hv⟩

instance : DecidablePred Evaluates := fun r =>
  let idle : Action := ⟨.origin, .origin, 0, "NoOp", 0⟩
  match h : r.evaluate idle (some idle) with
  | .ok v => .isTrue ((evaluates_iff (.inr rfl)).2 ⟨v, h⟩)
  | .error e => .isFalse fun hr => by
    obtain ⟨v, hv⟩ := hr idle idle
    cases h.symm.trans hv

/-- A rule which reads a name that it does not declare has no result, although the clause is behind
    one which decides the predicate. -/
example : ¬Evaluates {
    requesting := "a"
    restricting := none
    predicate := {
      clauses := [
        { left := .literal (.number 1), operator := ⟨.is, false, .number, rfl⟩,
          right := .literal (.number 1) },
        { connector := some ⟨.or, false⟩, left := .reference "b" .time,
          operator := ⟨.is, false, .number, rfl⟩, right := .literal (.number 1) }]
      joined := by simp [Joined] } } := by
  decide

end Rule

end Interlock
