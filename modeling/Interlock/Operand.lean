import Interlock.Bindings
import Interlock.Token.Scan

/-!
# Operands

One side of a comparison: a literal value, or a reference to a field of a bound action, written
`name.field`. Literals in rule text are strings and integers without a sign.

* `Operand.type`: the type, fixed before anything is bound.
* `Operand.read`: the operand that a text spells, if the text is one such token.
* `Operand.value`: the value under bindings. `Operand.type_value`: it has the operand's type.
-/

namespace Interlock

/-- One side of a comparison. -/
inductive Operand where
  | literal (value : Value)
  | reference (name : String) (field : Field)
  deriving DecidableEq

namespace Operand

/-- The type of the values of an operand. -/
def type : Operand → ValueType
  | literal v => v.type
  | reference _ f => f.type

/-- The name to which an operand refers, if it is a reference. -/
def name? : Operand → Option String
  | literal _ => none
  | reference n _ => some n

/-- The text of an operand. -/
def render : Operand → String
  | literal v => v.render
  | reference n f => n ++ "." ++ f.spelling

/-- The operand that a token spells. A reference has to be to a known field. -/
def ofKind? : Token.Kind → Option Operand
  | .str s => some (literal (.string s))
  | .int n => some (literal (.number n))
  | .reference n f => (Field.ofSpelling? f).map (reference n)
  | _ => none

/-- The operand that a text spells: its first token, which nothing may follow. -/
def read (text : String) : Except Error Operand :=
  let (first, behind) := (Cursor.ofSource text).next
  match behind.next.1.kind, ofKind? first.kind with
  | .eof, some operand => .ok operand
  | _, _ => .error { cause := .invalidOperand text }

/-- The value of an operand under bindings. -/
def value (b : Bindings) : Operand → Except Error Value
  | literal v => .ok v
  | reference n f => b.resolve n f

theorem type_value {b : Bindings} {o : Operand} {v : Value} (h : o.value b = .ok v) :
    v.type = o.type := by
  cases o with
  | literal w => cases h; rfl
  | reference n f =>
    simp only [value, Bindings.resolve] at h
    split at h
    · cases h; exact Action.type_field _ f
    · cases h

end Operand

end Interlock
