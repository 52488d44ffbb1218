import Interlock.Text.Decimal

/-!
# Values

What the clauses of a rule compare: texts, 64-bit integers, cells of the grid, and edges from one
cell to another. Rows and columns are 32-bit integers.

* `ValueType`: the four types, and `Value.type`, the type of a value.
* `Edge.overlaps`: two edges share an endpoint, whichever way they are directed.
* `render`: the text of a value, with strings between single quotes.
-/

namespace Interlock

/-- The types of values. -/
inductive ValueType where
  | string
  | number
  | vertex
  | edge
  deriving DecidableEq

namespace ValueType

/-- All types, in the order in which they are listed. -/
def all : List ValueType := [string, number, vertex, edge]

theorem mem_all (t : ValueType) : t ∈ all := by
  cases t <;> simp [all]

/-- The name of a type in messages. -/
def name : ValueType → String
  | string => "string"
  | number => "number"
  | vertex => "vertex"
  | edge => "edge"

end ValueType

/-- A cell of the grid. -/
structure Vertex where
  row : Int32
  col : Int32
  deriving DecidableEq

/-- The cell at the corner of the grid. -/
def Vertex.origin : Vertex := ⟨0, 0⟩

/-- The text of a cell, as `(1,2)`. -/
def Vertex.render (v : Vertex) : String :=
  "(" ++ v.row.toInt.repr ++ "," ++ v.col.toInt.repr ++ ")"

/-- The way from one cell to another, which may be the same. -/
structure Edge where
  origin : Vertex
  destination : Vertex
  deriving DecidableEq

namespace Edge

/-- The edge ends where it starts. -/
def isStationary (e : Edge) : Bool := e.origin == e.destination

/-- An endpoint of one edge is an endpoint of the other. -/
def overlaps (e f : Edge) : Bool :=
  e.origin == f.origin || e.destination == f.origin || e.origin == f.destination ||
    e.destination == f.destination

theorem overlaps_comm (e f : Edge) : e.overlaps f = f.overlaps e := by
  rw [Bool.eq_iff_iff]
  simp only [overlaps, Bool.or_eq_true, beq_iff_eq]
  constructor <;> rintro (((h | h) | h) | h) <;> simp [h]

/-- The text of an edge, as `(1,2)->(1,3)`. -/
def render (e : Edge) : String := e.origin.render ++ "->" ++ e.destination.render

end Edge

/-- A value that a clause compares. -/
inductive Value where
  | string (text : String)
  | number (value : Int64)
  | vertex (value : Vertex)
  | edge (value : Edge)
  deriving DecidableEq

namespace Value

/-- The type of a value. -/
def type : Value → ValueType
  | string _ => .string
  | number _ => .number
  | vertex _ => .vertex
  | edge _ => .edge

/-- The text, if the value is one. -/
def string? : Value → Option String
  | string s => some s
  | _ => none

/-- The integer, if the value is one. -/
def number? : Value → Option Int64
  | number n => some n
  | _ => none

/-- The cell, if the value is one. -/
def vertex? : Value → Option Vertex
  | vertex v => some v
  | _ => none

/-- The edge, if the value is one. -/
def edge? : Value → Option Edge
  | edge e => some e
  | _ => none

/-- The text of a value. -/
def render : Value → String
  | string s => "'" ++ s ++ "'"
  | number n => n.toInt.repr
  | vertex v => v.render
  | edge e => e.render

end Value

end Interlock
