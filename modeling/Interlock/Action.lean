import Interlock.Value

/-!
# Actions

An action is what an agent proposes to do in one step: under a name, at a time, it goes from one
cell to another, or stays. Rules read an action through its fields.

* `Field.ofSpelling?`: the field of a short or long spelling.
  `Field.ofSpelling?_spelling`: the short one is canonical.
* `Action.field`: the value of a field. `Action.type_field`: it has the type of the field.
-/

namespace Interlock

/-- What a rule can read of an action. -/
inductive Field where
  | origin
  | destination
  | edge
  | time
  | name
  | agent
  deriving DecidableEq

namespace Field

/-- All fields, in the order in which they are listed. -/
def all : List Field := [origin, destination, edge, time, name, agent]

theorem mem_all (f : Field) : f ∈ all := by
  cases f <;> simp [all]

/-- The field of a spelling. The two ends of the edge have a short and a long one. -/
def ofSpelling? : String → Option Field
  | "orig" | "origin" => some origin
  | "dest" | "destination" => some destination
  | "edge" => some edge
  | "time" => some time
  | "name" => some name
  | "agent" => some agent
  | _ => none

/-- The short spelling of a field. -/
def spelling : Field → String
  | origin => "orig"
  | destination => "dest"
  | edge => "edge"
  | time => "time"
  | name => "name"
  | agent => "agent"

theorem ofSpelling?_spelling (f : Field) : ofSpelling? f.spelling = some f := by
  cases f <;> rfl

/-- The type of the values of a field. -/
def type : Field → ValueType
  | origin | destination => .vertex
  | edge => .edge
  | time | agent => .number
  | name => .string

end Field

/-- What an agent proposes to do in one step. -/
structure Action where
  /-- Where the agent stands before the action. -/
  origin : Vertex
  /-- Where the agent stands after the action. -/
  destination : Vertex
  time : Int64
  name : String
  agent : Int64
  deriving DecidableEq

namespace Action

/-- The edge along which the action goes. -/
def edge (a : Action) : Edge := ⟨a.origin, a.destination⟩

/-- The action changes the cell of the agent. -/
def isMoving (a : Action) : Bool := a.origin != a.destination

/-- The value of a field. -/
def field (a : Action) : Field → Value
  | .origin => .vertex a.origin
  | .destination => .vertex a.destination
  | .edge => .edge a.edge
  | .time => .number a.time
  | .name => .string a.name
  | .agent => .number a.agent

theorem type_field (a : Action) (f : Field) : (a.field f).type = f.type := by
  cases f <;> rfl

/-- The text of an action, as `Move (1,1)->(1,2) by agent 0 at t=4`. -/
def render (a : Action) : String :=
  a.name ++ " " ++ a.edge.render ++ " by agent " ++ a.agent.toInt.repr ++ " at t=" ++
    a.time.toInt.repr

end Action

end Interlock
