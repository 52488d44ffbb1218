import Interlock.Action
import Interlock.Error
import Interlock.Text.Blank
import Interlock.Text.Cut

/-!
# Action literals

The written form of an action, as `[name=Move(E) orig=1,1 dest=1,2 time=0 agent=0]`: pairs of a key
and a value between square brackets. A key is a spelling of a field. Every pair may be left out, and
of two pairs with one key the later counts.

* `Parts`: what the pairs read so far have given. `Parts.put?` adds one pair.
* `Parts.toAction`: what was not given is filled in; an action without a destination stays where
  it is.
* `Action.read`: the action of a literal.
-/

namespace Interlock

open Text

namespace Action

/-- What the pairs of a literal have given so far. -/
structure Parts where
  name : Option String := none
  origin : Option Vertex := none
  destination : Option Vertex := none
  time : Option Int64 := none
  agent : Option Int64 := none
  deriving DecidableEq

/-- A cell, written as `row,column`. -/
def readVertex (value : List Char) : Except String Vertex :=
  match cutWhere (· == ',') value with
  | none => .error s!"expected row,col, found {quoted (String.ofList value)}"
  | some (row, col) =>
    match int32? row, int32? col with
    | none, _ => .error s!"invalid row {quoted (String.ofList row)}"
    | _, none => .error s!"invalid column {quoted (String.ofList col)}"
    | some r, some c => .ok ⟨r, c⟩

/-- A number, as the value of the given key. -/
def readNumber (key : String) (value : List Char) : Except String Int64 :=
  match int64? value with
  | none => .error s!"invalid {key} {quoted (String.ofList value)}"
  | some n => .ok n

namespace Parts

/-- The parts with one more pair, written `key=value`; or why the pair is refused. -/
def put? (p : Parts) (pair : List Char) : Except String Parts :=
  match cutWhere (· == '=') pair with
  | none => .error s!"expected key=value, found {quoted (String.ofList pair)}"
  | some (key, value) =>
    let key := String.ofList key
    match Field.ofSpelling? key with
    | some .name => .ok { p with name := some (String.ofList value) }
    | some .origin => do
      let v ← readVertex value
      return { p with origin := some v }
    | some .destination => do
      let v ← readVertex value
      return { p with destination := some v }
    | some .time => do
      let n ← readNumber key value
      return { p with time := some n }
    | some .agent => do
      let n ← readNumber key value
      return { p with agent := some n }
    | some .edge | none => .error s!"unknown key {quoted key}"

/-- The parts with all pairs, in order; or why the first bad one is refused. -/
def putAll? (p : Parts) : List (List Char) → Except String Parts
  | [] => .ok p
  | pair :: pairs => do (← p.put? pair).putAll? pairs

/-- The action with these parts. Where nothing was given, its name is `NoOp`, it starts at the
    corner of the grid, ends where it starts, and its time and agent are zero. -/
def toAction (p : Parts) : Action :=
  let origin := p.origin.getD Vertex.origin
  { origin, destination := p.destination.getD origin, time := p.time.getD 0,
    name := p.name.getD "NoOp", agent := p.agent.getD 0 }

end Parts

/-- The text between the square brackets, if the text stands between some. One bracket is not
    both of them. -/
def unbracket? : List Char → Option (List Char)
  | '[' :: s => if s.getLast? = some ']' then some s.dropLast else none
  | _ => none

/-- The action of a literal. -/
def read (text : String) : Except Error Action :=
  let invalid (reason : String) : Error := { cause := .invalidAction text reason }
  match unbracket? (trim text.toList) with
  | none => .error (invalid "expected [key=value ...]")
  | some body =>
    match ({} : Parts).putAll? (words body) with
    | .error reason => .error (invalid reason)
    | .ok parts => .ok parts.toAction

end Action

end Interlock
