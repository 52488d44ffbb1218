import Interlock.Connector
import Interlock.Operand
import Interlock.Operator

/-!
# Clauses

A clause compares two operands. In a predicate, every clause but the first also has the connector
which joins it to the clauses before it.

* `Clause.WellTyped`: both operands have the type of the operator.
* `Clause.make`: the clause of these parts, if it is well typed.
* `Clause.evaluate`: the result of the comparison alone.
-/

namespace Interlock

/-- A comparison of two operands. -/
structure Clause where
  left : Operand
  operator : Operator
  right : Operand
  /-- What joins the clause to those before it; none for the first clause. -/
  connector : Option Connector := none
  deriving DecidableEq

namespace Clause

/-- Both operands have the type of the operator. -/
def WellTyped (c : Clause) : Prop :=
  c.left.type = c.operator.type ∧ c.right.type = c.operator.type

instance (c : Clause) : Decidable c.WellTyped := inferInstanceAs (Decidable (_ ∧ _))

/-- The clause of these parts. Its operands have to agree in type, and the operator has to be for
    that type. -/
def make (left : Operand) (operator : Operator) (right : Operand)
    (connector : Option Connector) : Except Error Clause :=
  if left.type ≠ right.type then
    .error { cause := .incompatibleOperandTypes left.type right.type }
  else if operator.type ≠ left.type then
    .error { cause := .unsupportedOperandType operator.phrase left.type }
  else .ok ⟨left, operator, right, connector⟩

theorem wellTyped_of_make {l r : Operand} {o : Operator} {k : Option Connector} {c : Clause}
    (h : make l o r k = .ok c) : c.WellTyped := by
  unfold make at h
  split at h
  · cases h
  · split at h
    · cases h
    · cases h
      simp_all [WellTyped]

/-- The result of the comparison under bindings, whatever the connector. The left operand is read
    first. -/
def evaluate (b : Bindings) (c : Clause) : Except Error Bool := do
  let left ← c.left.value b
  let right ← c.right.value b
  c.operator.apply left right

/-- The names to which a clause refers, the left one first. -/
def names (c : Clause) : List String := c.left.name?.toList ++ c.right.name?.toList

/-- The text of a clause, with its connector in front. -/
def render (c : Clause) : String :=
  (match c.connector with
  | some k => k.render ++ " "
  | none => "") ++
    c.left.render ++ " " ++ c.operator.phrase ++ " " ++ c.right.render

end Clause

end Interlock
