import Interlock.Proofs.Predicate.Fold
import Mathlib.Data.Finset.Basic

/-!
# Two places for a `NOT`

What a clause adds to a chain is inverted twice over: by its operator, if this is negated, and by
its connector, if this is. Only the two together count. So both may be changed at once, in as many
clauses as one likes, as long as the first one is left as it is: it has no connector.

* `Operator.opposite`, `Connector.opposite`: with a `NOT` where there was none, and without it where
  there was one. `Operator.apply_opposite`, `Connector.apply_opposite`: what these come to.
* `Clause.invertTwice`: both changes in one clause. `Predicate.invertTwiceAt`: the changed clauses
  of a chain. `Predicate.test_invertTwiceAt`: the chain comes to the same as before.
-/

namespace Interlock

/-! ## Opposites -/

/-- The operator which is negated if the given one is not. -/
def Operator.opposite (o : Operator) : Operator := { o with negated := !o.negated }

/-- The connector which is negated if the given one is not. -/
def Connector.opposite (k : Connector) : Connector := { k with negated := !k.negated }

/-- The result is the opposite one, and an error is the same. -/
theorem Operator.apply_opposite (o : Operator) (l r : Value) :
    o.opposite.apply l r = (o.apply l r).map (!·) := by
  by_cases hl : l.type = o.type
  · by_cases hr : r.type = o.type
    · simp only [apply, opposite, hl, hr, ne_eq, not_true, if_false]
      rcases o.comparison.compare? l r with - | result
      · rfl
      · simp [Except.map]
    · simp [apply, opposite, hl, hr, Except.map, mismatch]
  · simp [apply, opposite, hl, Except.map, mismatch]

theorem Connector.apply_opposite (k : Connector) (result value : Bool) :
    k.opposite.apply result (!value) = k.apply result value := by
  simp [apply, opposite]

/-! ## Clauses -/

namespace Clause

/-- The clause with the opposite operator, and with the opposite connector if it has one. -/
def invertTwice (c : Clause) : Clause :=
  { c with operator := c.operator.opposite, connector := c.connector.map Connector.opposite }

variable {c : Clause} {b : Bindings}

theorem evaluate_of_opposite {d : Clause} (hleft : d.left = c.left)
    (hop : d.operator = c.operator.opposite) (hright : d.right = c.right) :
    d.evaluate b = (c.evaluate b).map (!·) := by
  simp only [evaluate, hleft, hop, hright, map_bind, Operator.apply_opposite]

theorem evaluate_invertTwice : c.invertTwice.evaluate b = (c.evaluate b).map (!·) :=
  evaluate_of_opposite rfl rfl rfl

/-- The clause at a place, inverted twice if the place is one of those given. -/
def invertTwiceAt (places : Finset Nat) (place : Nat) (c : Clause) : Clause :=
  if place ∈ places then c.invertTwice else c

variable {places : Finset Nat} {place : Nat}

theorem invertTwiceAt_of_mem (h : place ∈ places) : c.invertTwiceAt places place = c.invertTwice :=
  if_pos h

theorem invertTwiceAt_of_notMem (h : place ∉ places) : c.invertTwiceAt places place = c :=
  if_neg h

theorem connector_invertTwiceAt_eq_none_iff :
    (c.invertTwiceAt places place).connector = none ↔ c.connector = none := by
  by_cases h : place ∈ places
  · simp [invertTwiceAt_of_mem h, invertTwice]
  · rw [invertTwiceAt_of_notMem h]

end Clause

/-! ## Chains -/

namespace Predicate

variable {b : Bindings}

/-- A clause which is inverted by its connector once more adds what it would if it were not inverted
    by its operator. -/
theorem testFrom_invertTwice {c : Clause} (hc : c.connector ≠ none) (index : Nat) (result : Bool)
    (cs : List Clause) :
    testFrom b index result (c.invertTwice :: cs) = testFrom b index result (c :: cs) := by
  obtain ⟨k, hk⟩ := Option.ne_none_iff_exists'.1 hc
  have hk' : c.invertTwice.connector = some k.opposite := by rw [Clause.invertTwice, hk]; rfl
  rw [testFrom, testFrom, Clause.evaluate_invertTwice, bind_map]
  simp only [hk, hk', Connector.apply_opposite]

/-- Clauses with connectors may be inverted twice wherever they stand. -/
theorem testFrom_mapIdx {cs : List Clause} (hcs : ∀ c ∈ cs, c.connector ≠ none)
    {places : Finset Nat} (n : Nat) (index : Nat) (result : Bool) :
    testFrom b index result (cs.mapIdx fun i => Clause.invertTwiceAt places (i + n)) =
      testFrom b index result cs := by
  induction cs generalizing n index result with
  | nil => rfl
  | cons c cs ih =>
    rw [List.forall_mem_cons] at hcs
    have htail (index : Nat) (result : Bool) : testFrom b index result
        (cs.mapIdx fun i => Clause.invertTwiceAt places (i + 1 + n)) =
          testFrom b index result cs := by
      simp only [Nat.add_right_comm _ 1 n]
      exact ih hcs.2 (n + 1) index result
    have hhead (cs' : List Clause) : testFrom b index result
        (c.invertTwiceAt places (0 + n) :: cs') = testFrom b index result (c :: cs') := by
      by_cases h : 0 + n ∈ places
      · rw [Clause.invertTwiceAt_of_mem h, testFrom_invertTwice hcs.1]
      · rw [Clause.invertTwiceAt_of_notMem h]
    rw [List.mapIdx_cons, hhead]
    simp only [testFrom, htail]

theorem joined_mapIdx {f : Nat → Clause → Clause}
    (hf : ∀ i c, (f i c).connector = none ↔ c.connector = none) {cs : List Clause}
    (h : Joined cs) : Joined (cs.mapIdx f) := by
  rcases cs with - | ⟨c, cs⟩
  · exact h
  · obtain ⟨hc, hcs⟩ := h
    rw [List.mapIdx_cons]
    refine ⟨(hf 0 c).2 hc, fun d hd => ?_⟩
    obtain ⟨i, hi, rfl⟩ := List.mem_mapIdx.1 hd
    exact mt (hf _ _).1 (hcs _ (List.getElem_mem hi))

/-- The chain with its clauses at the given places inverted twice. -/
def invertTwiceAt (places : Finset Nat) (p : Predicate) : Predicate where
  clauses := p.clauses.mapIdx (Clause.invertTwiceAt places)
  joined := joined_mapIdx (fun _ _ => Clause.connector_invertTwiceAt_eq_none_iff) p.joined

/-- If the first clause stays as it is, then so do the result and the error. -/
theorem test_invertTwiceAt {places : Finset Nat} (h : 0 ∉ places) (p : Predicate) (b : Bindings) :
    (p.invertTwiceAt places).test b = p.test b := by
  rcases hp : p.clauses with - | ⟨c, cs⟩
  · exact absurd hp p.clauses_ne_nil
  · have hcs : ∀ d ∈ cs, d.connector ≠ none := (hp ▸ p.joined).2
    simp only [test, invertTwiceAt, hp, List.mapIdx_cons, Clause.invertTwiceAt_of_notMem h,
      testFrom, testFrom_mapIdx hcs 1]

end Predicate

end Interlock
