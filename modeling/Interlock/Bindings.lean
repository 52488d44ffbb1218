import Interlock.Action
import Interlock.Error
import Interlock.Text.Cut

/-!
# Bindings

The actions bound to the names of a rule, in the order in which the names were first bound. Binding
a name again replaces its action.

* `action?`: the action of a name. `action?_bind`: it is the one bound last.
* `resolve`: the value of a field of a bound action; `get`: the same by a dotted key.
-/

namespace Interlock

/-- Names with their actions, in the order in which the names were first bound. -/
structure Bindings where
  entries : List (String × Action) := []
  deriving DecidableEq

namespace Bindings

/-- No bindings. -/
def empty : Bindings := {}

/-- The entries with the action of a name replaced, or with a new entry behind them. -/
def bindIn (name : String) (a : Action) : List (String × Action) → List (String × Action)
  | [] => [(name, a)]
  | (n, b) :: es => if n = name then (n, a) :: es else (n, b) :: bindIn name a es

/-- The bindings with a name bound to an action. -/
def bind (b : Bindings) (name : String) (a : Action) : Bindings := ⟨bindIn name a b.entries⟩

/-- The bindings of a sequence of pairs, bound in order. -/
def ofList (pairs : List (String × Action)) : Bindings :=
  pairs.foldl (fun b p => b.bind p.1 p.2) empty

/-- The action of a name, if the name is bound. -/
def action? (b : Bindings) (name : String) : Option Action :=
  (b.entries.find? fun e => e.1 == name).map (·.2)

/-- The bound names, in the order in which they were first bound. -/
def names (b : Bindings) : List String := b.entries.map (·.1)

/-- The number of bound names. -/
def size (b : Bindings) : Nat := b.entries.length

theorem action?_bind (b : Bindings) (name n : String) (a : Action) :
    (b.bind name a).action? n = if n = name then some a else b.action? n := by
  obtain ⟨es⟩ := b
  simp only [action?, bind]
  induction es with
  | nil => by_cases h : n = name <;> simp [bindIn, h, Ne.symm]
  | cons e es ih =>
    rw [bindIn]
    by_cases hn : e.1 = n
    · by_cases h : e.1 = name <;> simp_all
    · by_cases h : e.1 = name <;> simp_all [Ne.symm]

/-- The value of a field of the action bound to a name. -/
def resolve (b : Bindings) (name : String) (f : Field) : Except Error Value :=
  match b.action? name with
  | some a => .ok (a.field f)
  | none => .error { cause := .unknownContextKey (name ++ "." ++ f.spelling) }

/-- The value under a key such as `a.dest`: a name, a dot and a spelling of a field. The name ends
    at the first dot. -/
def get (b : Bindings) (key : String) : Except Error Value :=
  match Text.cutWhere (· == '.') key.toList with
  | none => .error { cause := .unknownContextKey key }
  | some (name, field) =>
    match Field.ofSpelling? (String.ofList field) with
    | none => .error { cause := .unknownContextKey key }
    | some f => b.resolve (String.ofList name) f

end Bindings

end Interlock
