import Interlock.Action
import Interlock.Json

/-!
# Values and actions in JSON

Structures are objects with a member for each field, or arrays of their fields in order. Variants
are objects with one member, named for the variant. Other members of a structure are passed over; a
field may be neither missing nor repeated.

* `ofJson?`, `toJson`: the value of a form, and the form of a value.
-/

namespace Interlock

namespace Json

/-- The member of a name, if there is exactly one. -/
def member? (members : List (Option String × Json)) (name : String) : Option Json :=
  match members.filter fun m => m.1 == some name with
  | [(_, v)] => some v
  | _ => none

/-- The fields of a structure, in the order of their names. -/
def fields? (names : List String) : Json → Option (List Json)
  | array vs => if vs.length = names.length then some vs else none
  | object ms => if ms.all fun m => m.1.isSome then names.mapM (member? ms) else none
  | _ => none

/-- An integer between two bounds, which are included. -/
def integerIn? (lower upper : Int) : Json → Option Int
  | number (some n) => if lower ≤ n ∧ n ≤ upper then some n else none
  | _ => none

/-- An integer of 32 bits. -/
def int32? (j : Json) : Option Int32 :=
  (j.integerIn? Int32.minValue.toInt Int32.maxValue.toInt).map Int32.ofInt

/-- An integer of 64 bits. -/
def int64? (j : Json) : Option Int64 :=
  (j.integerIn? Int64.minValue.toInt Int64.maxValue.toInt).map Int64.ofInt

/-- A text. -/
def text? : Json → Option String
  | string s => s
  | _ => none

end Json

namespace Vertex

/-- The cell of a form. -/
def ofJson? (j : Json) : Option Vertex := do
  match ← j.fields? ["row", "col"] with
  | [row, col] => return ⟨← row.int32?, ← col.int32?⟩
  | _ => none

/-- The form of a cell. -/
def toJson (v : Vertex) : Json :=
  .object [(some "row", .number (some v.row.toInt)), (some "col", .number (some v.col.toInt))]

end Vertex

namespace Edge

/-- The edge of a form. -/
def ofJson? (j : Json) : Option Edge := do
  match ← j.fields? ["origin", "destination"] with
  | [origin, destination] =>
    return ⟨← Vertex.ofJson? origin, ← Vertex.ofJson? destination⟩
  | _ => none

/-- The form of an edge. -/
def toJson (e : Edge) : Json :=
  .object [(some "origin", e.origin.toJson), (some "destination", e.destination.toJson)]

end Edge

namespace ValueType

/-- The name of a type as a variant. -/
def variant : ValueType → String
  | string => "String"
  | number => "Number"
  | vertex => "Vertex"
  | edge => "Edge"

/-- The type of a variant. -/
def ofVariant? (name : String) : Option ValueType := all.find? fun t => t.variant == name

/-- The type of a form: its name, alone or with nothing behind it. -/
def ofJson? : Json → Option ValueType
  | .string (some name) => ofVariant? name
  | .object [(some name, .null)] => ofVariant? name
  | _ => none

/-- The form of a type. -/
def toJson (t : ValueType) : Json := .string (some t.variant)

end ValueType

namespace Value

/-- The value of a form. -/
def ofJson? : Json → Option Value
  | .object [(some name, j)] => do
    match ← ValueType.ofVariant? name with
    | .string => return .string (← j.text?)
    | .number => return .number (← j.int64?)
    | .vertex => return .vertex (← Vertex.ofJson? j)
    | .edge => return .edge (← Edge.ofJson? j)
  | _ => none

/-- The form of a value. -/
def toJson (v : Value) : Json :=
  let content : Json := match v with
    | string s => .string (some s)
    | number n => .number (some n.toInt)
    | vertex v => v.toJson
    | edge e => e.toJson
  .object [(some v.type.variant, content)]

end Value

namespace Action

/-- The action of a form. -/
def ofJson? (j : Json) : Option Action := do
  match ← j.fields? ["origin", "destination", "time", "name", "agent"] with
  | [origin, destination, time, name, agent] =>
    return { origin := ← Vertex.ofJson? origin, destination := ← Vertex.ofJson? destination,
             time := ← time.int64?, name := ← name.text?, agent := ← agent.int64? }
  | _ => none

/-- The form of an action. -/
def toJson (a : Action) : Json :=
  .object [(some "origin", a.origin.toJson), (some "destination", a.destination.toJson),
    (some "time", .number (some a.time.toInt)), (some "name", .string (some a.name)),
    (some "agent", .number (some a.agent.toInt))]

end Action

end Interlock
