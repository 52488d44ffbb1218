import Interlock.Predicate
import Interlock.Proofs.Result

/-!
# Chains are folded from the left

A chain is tested in two steps: its clauses are evaluated, all of them and in their order, and then
the values are folded from the left, with one connector for each value behind the first. So the
error of a chain is that of its first clause which has one, whatever the values of the other clauses
are, and no clause is ever found without its connector.

* `Predicate.make_eq_ok_iff`: the chains are the clauses of which a predicate can be made.
  `Predicate.exists_connectors_eq`: each of them but the first has a connector.
* `Predicate.fold`: values, folded from the left. `Predicate.test_eq`: the two steps of a test.
* `Clause.category_of_evaluate`: errors of clauses are errors of evaluation.
* `Predicate.test_of_make`: the result of a chain, and its error.
-/

namespace Interlock

namespace Predicate

/-! ## Chains -/

theorem misplaced?_eq_none {n : Nat} {cs : List Clause} (h : ∀ c ∈ cs, c.connector ≠ none) :
    misplaced? (n + 1) cs = none := by
  induction cs generalizing n with
  | nil => rfl
  | cons c cs ih =>
    rw [List.forall_mem_cons] at h
    rw [misplaced?, if_neg, ih h.2]
    simpa [Option.isSome_iff_ne_none] using h.1

theorem clauses_ne_nil (p : Predicate) : p.clauses ≠ [] := by
  intro h
  have hp := p.joined
  rw [h] at hp
  exact hp

theorem make_eq_ok_iff {cs : List Clause} {p : Predicate} : make cs = .ok p ↔ p.clauses = cs := by
  constructor
  · intro h
    rw [make] at h
    split at h
    · cases h
    · split at h <;> cases h
      rfl
  · rintro rfl
    obtain ⟨cs, hcs⟩ := p
    rcases cs with - | ⟨c, cs⟩
    · cases hcs
    · have hnone : misplaced? 0 (c :: cs) = none := by
        rw [misplaced?, if_neg (by simp [hcs.1]), misplaced?_eq_none hcs.2]
      simp only [make]
      split
      · next heq => cases heq
      · split
        · next heq => cases hnone.symm.trans heq
        · rfl

/-- Every clause of a chain has a connector, except for the first. -/
theorem exists_connectors_eq (p : Predicate) :
    ∃ connectors : List Connector, p.clauses.map Clause.connector = none :: connectors.map some := by
  obtain ⟨cs, hcs⟩ := p
  rcases cs with - | ⟨c, cs⟩
  · cases hcs
  · obtain ⟨hc, hcs⟩ := hcs
    have hsome : ∃ ks : List Connector, cs.map Clause.connector = ks.map some := by
      induction cs with
      | nil => exact ⟨[], rfl⟩
      | cons d cs ih =>
        rw [List.forall_mem_cons] at hcs
        obtain ⟨k, hk⟩ := Option.ne_none_iff_exists'.1 hcs.1
        obtain ⟨ks, hks⟩ := ih hcs.2
        exact ⟨k :: ks, by rw [List.map_cons, List.map_cons, hk, hks]⟩
    obtain ⟨ks, hks⟩ := hsome
    exact ⟨ks, by rw [List.map_cons, hc, hks]⟩

end Predicate

/-! ## Values -/

/-- Two truth values, joined. -/
def Junction.join : Junction → Bool → Bool → Bool
  | .and, a, b => a && b
  | .or, a, b => a || b

/-- The value of a clause as its connector takes it. -/
def Connector.turn (k : Connector) (value : Bool) : Bool := if k.negated then !value else value

theorem Connector.apply_eq (k : Connector) (result value : Bool) :
    k.apply result value = k.junction.join result (k.turn value) := by
  obtain ⟨junction, negated⟩ := k
  cases junction <;> cases negated <;> cases value <;> rfl

namespace Predicate

/-- The values of the clauses of a chain, folded from the left: the result is the first value, and
    then it is joined with each later one by the connector which stands before that. -/
def fold (connectors : List Connector) : List Bool → Bool
  | [] => false
  | first :: later =>
    (connectors.zip later).foldl (fun result (k, value) => k.junction.join result (k.turn value))
      first

/-- A clause is evaluated before its connector joins it to the result so far. So the clauses behind
    the first fail as they do without their connectors, and their values are folded if none does. -/
theorem testFrom_eq {b : Bindings} {cs : List Clause} {ks : List Connector}
    (h : cs.map Clause.connector = ks.map some) (index : Nat) (result : Bool) :
    testFrom b index result cs =
      (cs.mapM (Clause.evaluate b)).map fun values => fold ks (result :: values) := by
  induction cs generalizing ks index result with
  | nil =>
    obtain rfl : ks = [] := by simpa using h.symm
    rfl
  | cons c cs ih =>
    rcases ks with - | ⟨k, ks⟩
    · cases h
    · obtain ⟨hk, hks⟩ := List.cons.inj h
      rw [testFrom, List.mapM_cons, map_bind]
      refine bind_congr_of_ok fun value _ => ?_
      simp only [hk, ih hks, map_bind]
      rw [Connector.apply_eq]
      rfl

/-- A test evaluates all clauses, and folds their values if none of them fails. -/
theorem test_eq {p : Predicate} {ks : List Connector}
    (h : p.clauses.map Clause.connector = none :: ks.map some) (b : Bindings) :
    p.test b = (p.clauses.mapM (Clause.evaluate b)).map (fold ks) := by
  rcases hcs : p.clauses with - | ⟨c, cs⟩
  · exact absurd hcs p.clauses_ne_nil
  · rw [hcs] at h
    obtain ⟨hc, hks⟩ := List.cons.inj h
    rw [test, hcs, testFrom, List.mapM_cons, map_bind]
    refine bind_congr_of_ok fun value _ => ?_
    simp only [hc, if_true, testFrom_eq hks, map_bind]
    rfl

/-- A chain of one clause is tested by it alone. -/
theorem test_of_singleton {p : Predicate} {c : Clause} (h : p.clauses = [c]) (b : Bindings) :
    p.test b = c.evaluate b := by
  obtain ⟨ks, hks⟩ := p.exists_connectors_eq
  obtain rfl : ks = [] := by
    rw [h] at hks
    simpa using (List.cons.inj hks).2.symm
  rw [test_eq hks, h, List.mapM_cons, List.mapM_nil]
  rcases c.evaluate b with e | value
  · rfl
  · rfl

end Predicate

/-! ## Errors -/

section Errors

variable {b : Bindings} {err : Error}

theorem Operand.category_of_value {o : Operand} (h : o.value b = .error err) :
    err.category = .evaluation := by
  cases o with
  | literal v => cases h
  | reference n f =>
    rw [value, Bindings.resolve] at h
    split at h <;> cases h
    rfl

theorem Operator.category_of_apply {o : Operator} {l r : Value} (h : o.apply l r = .error err) :
    err.category = .evaluation := by
  rw [apply] at h
  repeat' split at h
  all_goals cases h
  all_goals rfl

theorem Clause.category_of_evaluate {c : Clause} (h : c.evaluate b = .error err) :
    err.category = .evaluation := by
  rw [evaluate, bind_eq_error_iff] at h
  rcases h with hleft | ⟨l, -, h⟩
  · exact Operand.category_of_value hleft
  · rcases bind_eq_error_iff.1 h with hright | ⟨r, -, happly⟩
    · exact Operand.category_of_value hright
    · exact Operator.category_of_apply happly

end Errors

/-! ## Tests -/

namespace Predicate

/-- Whatever clauses a predicate was made of, all but the first have a connector, and under any
    bindings the result is that of all their values, folded from the left by these connectors. There
    is a result just if every clause has a value, and else the error is that of the first clause
    which has none. So no clause is ever refused for want of a connector. -/
theorem test_of_make {clauses : List Clause} {p : Predicate} (h : make clauses = .ok p) :
    ∃ connectors : List Connector, clauses.map Clause.connector = none :: connectors.map some ∧
      ∀ b : Bindings,
        (∀ result, p.test b = .ok result ↔ ∃ values,
          List.Forall₂ (fun c value => c.evaluate b = .ok value) clauses values ∧
            result = fold connectors values) ∧
        (∀ err, p.test b = .error err ↔ ∃ before c behind, clauses = before ++ c :: behind ∧
          (∀ d ∈ before, ∃ value, d.evaluate b = .ok value) ∧ c.evaluate b = .error err) ∧
        ∀ what place, p.test b ≠ .error ⟨.preconditionViolation what, place⟩ := by
  obtain rfl := make_eq_ok_iff.1 h
  obtain ⟨connectors, hks⟩ := p.exists_connectors_eq
  refine ⟨connectors, hks, fun b => ?_⟩
  have herror (err : Error) := calc p.test b = .error err
    _ ↔ p.clauses.mapM (Clause.evaluate b) = .error err := by rw [test_eq hks, map_eq_error_iff]
    _ ↔ _ := mapM_eq_error_iff
  refine ⟨fun result => ?_, herror, fun what place hviolation => ?_⟩
  · rw [test_eq hks, map_eq_ok_iff]
    exact exists_congr fun values => and_congr mapM_eq_ok_iff eq_comm
  · -- The error is that of a clause, and so no complaint about the chain.
    obtain ⟨before, c, behind, -, -, hc⟩ := (herror _).1 hviolation
    cases Clause.category_of_evaluate hc

/-- A chain whose first two clauses decide nothing about the third. -/
def mixedChain : Predicate where
  clauses := [
    { left := .reference "a" .time, operator := ⟨.is, false, .number, rfl⟩,
      right := .literal (.number 0) },
    { connector := some ⟨.and, false⟩, left := .literal (.number 1),
      operator := ⟨.is, false, .number, rfl⟩, right := .literal (.number 1) },
    { connector := some ⟨.or, true⟩, left := .reference "b" .time,
      operator := ⟨.is, false, .number, rfl⟩, right := .literal (.number 5) }]
  joined := by simp [Joined]

/-- The last clause holds by its `NOT`, although the first one fails and no connector binds more
    closely than another. Where the name in the last clause is not bound, that is the error. -/
theorem test_of_make_mixedChain :
    let late : Action := ⟨⟨0, 0⟩, ⟨0, 0⟩, 1, "NoOp", 0⟩
    make mixedChain.clauses = .ok mixedChain ∧
      mixedChain.test ⟨[("a", late), ("b", late)]⟩ = .ok true ∧
      mixedChain.test ⟨[("a", late)]⟩ = .error { cause := .unknownContextKey "b.time" } := by
  intro late
  have hmake : make mixedChain.clauses = .ok mixedChain := make_eq_ok_iff.2 rfl
  obtain ⟨connectors, hks, htest⟩ := test_of_make hmake
  obtain rfl : [⟨.and, false⟩, ⟨.or, true⟩] = connectors :=
    List.map_injective_iff.2 (fun _ _ => Option.some.inj) (List.cons.inj hks).2
  refine ⟨hmake, ((htest _).1 true).2 ⟨[false, true, false], ?_, rfl⟩,
    ((htest _).2.1 _).2 ⟨mixedChain.clauses.take 2, _, [], rfl, ?_, rfl⟩⟩
  · exact .cons rfl (.cons rfl (.cons rfl .nil))
  · exact List.forall_mem_cons.2 ⟨⟨false, rfl⟩, List.forall_mem_singleton.2 ⟨true, rfl⟩⟩

end Predicate

end Interlock
