/-!
# Stages of a draft

A draft takes the tokens of a predicate one by one. Its stage says which kind of token comes next;
the stages follow each other in a circle, one round for each clause and its connector.
-/

namespace Interlock

/-- The kind of token that a draft takes next. -/
inductive Stage where
  /-- The left operand of a clause. -/
  | left
  /-- The operator. -/
  | operator
  /-- The right operand. -/
  | right
  /-- The connector to a further clause. -/
  | connector
  deriving DecidableEq

namespace Stage

/-- All stages, in the order in which they follow each other. -/
def all : List Stage := [left, operator, right, connector]

theorem mem_all (s : Stage) : s ∈ all := by
  cases s <;> simp [all]

/-- The stage after one more token. -/
def next : Stage → Stage
  | left => operator
  | operator => right
  | right => connector
  | connector => left

/-- No clause is open at this stage. -/
def isTerminal : Stage → Bool
  | left | connector => true
  | operator | right => false

/-- The name of a stage in messages. -/
def name : Stage → String
  | left => "operand1"
  | operator => "operator"
  | right => "operand2"
  | connector => "connector"

end Stage

end Interlock
