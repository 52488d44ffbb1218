import Interlock.Error
import Interlock.Text.Blank

/-!
# Operators

An operator compares two values of the type it was made for, and may be negated. Its phrase is one
or more words, such as `IS NOT LESS THAN`.

* `Comparison`: the four comparisons, and `Comparison.supports`, which types each can compare.
* `Operator.make`, `Operator.read`: an operator by its parts, or by its phrase, if it supports the
  type.
* `Operator.apply`: the comparison of two values, which have to be of the operator's type.
-/

namespace Interlock

/-- The comparisons, without negation. -/
inductive Comparison where
  /-- Two numbers, strings or cells are equal. -/
  | is
  /-- A number is less than another. -/
  | lessThan
  /-- A number is greater than another. -/
  | moreThan
  /-- Two edges share an endpoint. -/
  | overlapsWith
  deriving DecidableEq

namespace Comparison

/-- All comparisons, in the order in which they are listed. -/
def all : List Comparison := [is, lessThan, moreThan, overlapsWith]

theorem mem_all (c : Comparison) : c ∈ all := by
  cases c <;> simp [all]

/-- The comparison can compare values of this type. -/
def supports : Comparison → ValueType → Bool
  | is, .number | is, .string | is, .vertex => true
  | lessThan, .number | moreThan, .number => true
  | overlapsWith, .edge => true
  | _, _ => false

/-- The result of the comparison, if the values are such as it compares. -/
def compare? : Comparison → Value → Value → Option Bool
  | is, .number a, .number b => some (a == b)
  | is, .string a, .string b => some (a == b)
  | is, .vertex a, .vertex b => some (a == b)
  | lessThan, .number a, .number b => some (a < b)
  | moreThan, .number a, .number b => some (a > b)
  | overlapsWith, .edge a, .edge b => some (a.overlaps b)
  | _, _, _ => none

/-- The canonical phrase of a comparison or its negation. -/
def phrase : Comparison → Bool → String
  | is, false => "IS"
  | is, true => "IS NOT"
  | lessThan, false => "IS LESS THAN"
  | lessThan, true => "IS NOT LESS THAN"
  | moreThan, false => "IS MORE THAN"
  | moreThan, true => "IS NOT MORE THAN"
  | overlapsWith, false => "OVERLAPS WITH"
  | overlapsWith, true => "NOT OVERLAPS WITH"

end Comparison

/-- A comparison for values of one type. -/
structure Operator where
  comparison : Comparison
  /-- The result is inverted. -/
  negated : Bool
  /-- The type of the values to compare. -/
  type : ValueType
  /-- The comparison can compare them. -/
  supported : comparison.supports type
  deriving DecidableEq

namespace Operator

/-- The operator with these parts, if the comparison supports the type. -/
def make (comparison : Comparison) (negated : Bool) (type : ValueType) : Except Error Operator :=
  if h : comparison.supports type then .ok ⟨comparison, negated, type, h⟩
  else .error { cause := .unsupportedOperandType (comparison.phrase negated) type }

/-- The comparison of a phrase without its `NOT`, given whether it begins with `IS`. -/
def comparisonOf? : Bool → List String → Option Comparison
  | true, [] => some .is
  | _, ["LESS", "THAN"] => some .lessThan
  | _, ["MORE", "THAN"] => some .moreThan
  | false, ["OVERLAPS", "WITH"] => some .overlapsWith
  | _, _ => none

/-- The words behind a first word, and whether that word stood there. -/
def dropWord (word : String) : List String → Bool × List String
  | w :: ws => if w = word then (true, ws) else (false, w :: ws)
  | [] => (false, [])

/-- The comparison that a phrase spells, and whether it is negated: an optional `IS`, an optional
    `NOT`, and the words of the comparison. Only `OVERLAPS WITH` does without `IS` always, and plain
    `IS` never does. -/
def phrase? (words : List String) : Option (Comparison × Bool) :=
  let (isFirst, rest) := dropWord "IS" words
  let (negated, rest) := dropWord "NOT" rest
  (comparisonOf? isFirst rest).map fun comparison => (comparison, negated)

/-- The operator of a phrase, for values of a type. -/
def read (text : String) (type : ValueType) : Except Error Operator :=
  match phrase? ((Text.words text.toList).map String.ofList) with
  | some (comparison, negated) => make comparison negated type
  | none => .error { cause := .unknownOperator text }

/-- The canonical phrase of an operator. -/
def phrase (o : Operator) : String := o.comparison.phrase o.negated

/-- The operator got a value of this type. -/
def mismatch (o : Operator) (v : Value) : Error :=
  { cause := .valueKindMismatch o.type v.type }

/-- The result of comparing two values. Both have to be of the operator's type; the error names the
    first which is not. -/
def apply (o : Operator) (left right : Value) : Except Error Bool :=
  if left.type ≠ o.type then .error (o.mismatch left)
  else if right.type ≠ o.type then .error (o.mismatch right)
  else match o.comparison.compare? left right with
    | some result => .ok (result != o.negated)
    | none => .error (o.mismatch left)

end Operator

end Interlock
