/-!
# Decimal integers

A decimal integer is an optional sign and one or more ASCII digits; leading zeros are allowed. The
fixed widths bound its value.

* `natural?`, `integer?`: the value of a run of digits, without and with a sign.
* `int32?`, `int64?`, `index?`: the same within the range of the width.
-/

namespace Interlock.Text

/-- The value of a run of digits, from the value of the digits before it. -/
def digitsFrom (n : Nat) (s : List Char) : Nat :=
  s.foldl (fun n c => 10 * n + (c.toNat - '0'.toNat)) n

/-- The value of one or more ASCII digits. -/
def natural? (s : List Char) : Option Nat :=
  if s.isEmpty || !s.all Char.isDigit then none else some (digitsFrom 0 s)

/-- The value of an optional sign and one or more ASCII digits. -/
def integer? : List Char → Option Int
  | '-' :: s => (natural? s).map fun n => -(n : Int)
  | '+' :: s => (natural? s).map fun n => (n : Int)
  | s => (natural? s).map fun n => (n : Int)

/-- A decimal integer of 32 bits. -/
def int32? (s : List Char) : Option Int32 :=
  (integer? s).bind fun n =>
    if Int32.minValue.toInt ≤ n ∧ n ≤ Int32.maxValue.toInt then some (Int32.ofInt n) else none

/-- A decimal integer of 64 bits. -/
def int64? (s : List Char) : Option Int64 :=
  (integer? s).bind fun n =>
    if Int64.minValue.toInt ≤ n ∧ n ≤ Int64.maxValue.toInt then some (Int64.ofInt n) else none

/-- A place in a list, as a decimal of at most 64 bits. A plus sign is allowed. -/
def index? : List Char → Option Nat
  | '+' :: s => (natural? s).filter (· < UInt64.size)
  | s => (natural? s).filter (· < UInt64.size)

end Interlock.Text
