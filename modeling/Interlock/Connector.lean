import Interlock.Error
import Interlock.Text.Blank

/-!
# Connectors

A connector joins a clause to the result of the clauses before it: `AND`, `OR`, `AND NOT` or
`OR NOT`. The `NOT` inverts the clause which follows, and not the result so far.
-/

namespace Interlock

/-- The two ways to join truth values. -/
inductive Junction where
  | and
  | or
  deriving DecidableEq

/-- What joins a clause to the clauses before it. -/
structure Connector where
  junction : Junction
  /-- The clause is inverted. -/
  negated : Bool := false
  deriving DecidableEq

namespace Connector

/-- The connector of some words. -/
def ofWords? : List String → Option Connector
  | ["AND"] => some ⟨.and, false⟩
  | ["OR"] => some ⟨.or, false⟩
  | ["AND", "NOT"] => some ⟨.and, true⟩
  | ["OR", "NOT"] => some ⟨.or, true⟩
  | _ => none

/-- The connector that a text spells. -/
def read (text : String) : Except Error Connector :=
  match ofWords? ((Text.words text.toList).map String.ofList) with
  | some c => .ok c
  | none => .error { cause := .invalidConnector text }

/-- The result with one more clause. -/
def apply (c : Connector) (result clause : Bool) : Bool :=
  let clause := clause != c.negated
  match c.junction with
  | .and => result && clause
  | .or => result || clause

/-- The text of a connector. -/
def render (c : Connector) : String :=
  (match c.junction with
  | .and => "AND"
  | .or => "OR") ++ if c.negated then " NOT" else ""

end Connector

end Interlock
