import Interlock.Clause

/-!
# Predicates

A predicate is a chain of one or more clauses. All clauses are evaluated, and their results are
joined from left to right without precedence: `a AND b OR c` is `(a AND b) OR c`.

* `Joined`: the first clause has no connector and every later one has.
* `Predicate.make`: the predicate of some clauses, if they are joined.
* `Predicate.test`: the result of the chain, or the error of the first clause which has one.
-/

namespace Interlock

/-- Clauses form a chain: there is a first one, which has no connector, and all others have one. -/
def Joined : List Clause → Prop
  | [] => False
  | c :: cs => c.connector = none ∧ ∀ d ∈ cs, d.connector ≠ none

/-- A chain of clauses. -/
structure Predicate where
  clauses : List Clause
  joined : Joined clauses
  deriving DecidableEq

namespace Predicate

/-- The first clause, from position `index` on, which has a connector though it is the first, or
    has none though it is not. -/
def misplaced? (index : Nat) : List Clause → Option (Nat × Clause)
  | [] => none
  | c :: cs =>
    if c.connector.isSome ≠ decide (0 < index) then some (index, c) else misplaced? (index + 1) cs

theorem forall_of_misplaced? {n : Nat} {cs : List Clause} (h : misplaced? (n + 1) cs = none) :
    ∀ d ∈ cs, d.connector ≠ none := by
  induction cs generalizing n with
  | nil => simp
  | cons c cs ih =>
    rw [misplaced?] at h
    split at h
    · cases h
    · next hc =>
      have : c.connector ≠ none := by simpa [Option.isSome_iff_ne_none] using hc
      simpa using ⟨this, ih h⟩

theorem joined_of_misplaced? {cs : List Clause} (hne : cs ≠ []) (h : misplaced? 0 cs = none) :
    Joined cs := by
  cases cs with
  | nil => exact absurd rfl hne
  | cons c cs =>
    rw [misplaced?] at h
    split at h
    · cases h
    · next hc => exact ⟨by simpa using hc, forall_of_misplaced? h⟩

/-- The first clause has a connector, or a later one has none. -/
def misplacedConnector (index : Nat) (c : Clause) : Error :=
  let what := "clause " ++ index.repr ++ " has a misplaced connector: " ++ c.render
  { cause := .preconditionViolation what }

/-- The predicate of some clauses, which have to form a chain. -/
def make (clauses : List Clause) : Except Error Predicate :=
  if hne : clauses = [] then .error { cause := .incompletePredicate }
  else match h : misplaced? 0 clauses with
    | some (index, c) => .error (misplacedConnector index c)
    | none => .ok ⟨clauses, joined_of_misplaced? hne h⟩

/-- A later clause has no connector. -/
def missingConnector (index : Nat) : Error :=
  { cause := .preconditionViolation ("clause " ++ index.repr ++ " has no connector") }

/-- The result of the clauses from position `index` on, joined to the result of those before. -/
def testFrom (b : Bindings) (index : Nat) (result : Bool) : List Clause → Except Error Bool
  | [] => .ok result
  | c :: cs => do
    let value ← c.evaluate b
    match c.connector with
    | some k => testFrom b (index + 1) (k.apply result value) cs
    | none =>
      if index = 0 then testFrom b (index + 1) value cs
      else .error (missingConnector index)

/-- The result of the chain under bindings. -/
def test (b : Bindings) (p : Predicate) : Except Error Bool := testFrom b 0 false p.clauses

/-- The text of a predicate: its clauses, with single spaces between them. -/
def render (p : Predicate) : String := " ".intercalate (p.clauses.map Clause.render)

end Predicate

end Interlock
