import Interlock.Shell.Brackets
import Interlock.Shell.Run
import Interlock.Text.Backspace
import Interlock.Text.Cut

/-!
# Scripts

Input that comes as bytes is cut at the line feeds, and each line is read as UTF-8. A line which is
none fails, and the next one follows it.

* `Script.readings`: the lines of a batch script.
* `Script.interactive`: the lines of an interactive shell whose input is no terminal; it carries out
  the backspaces in them, and keeps reading while a bracket is open.
-/

namespace Interlock

namespace Script

/-- A text in UTF-8, or nothing if the bytes are none. -/
def decode? (bytes : List UInt8) : Option String := String.fromUTF8? ⟨bytes.toArray⟩

/-- The lines of an input with their ends; nothing stands for a line which is no UTF-8. -/
def rawLines (bytes : List UInt8) : List (Option String) :=
  (Text.chunks (· == 0x0a) bytes).map decode?

/-- Reading a line failed because it is no UTF-8. -/
def badEncoding (source : String) : Reading :=
  .failed { cause := .unreadable source "stream did not contain valid UTF-8" }

/-- A line without the line feeds and carriage returns at its end. -/
def chomp (line : String) : String :=
  String.ofList (line.toList.reverse.dropWhile fun c => c == '\n' || c == '\r').reverse

/-- The readings of a batch script. -/
def readings (bytes : List UInt8) : List Reading :=
  (rawLines bytes).map fun
    | some line => .line (chomp line)
    | none => badEncoding "<stdin>"

/-- A line and its end, which is a line feed with or without a carriage return before it. -/
def splitEnd (line : List Char) : List Char × List Char :=
  let body := Text.dropLineEnd line
  (body, line.drop body.length)

/-- The readings of an interactive shell, given the lines of its present input which were read
    before. Backspaces reach back into those. An input that ends inside brackets is dropped. -/
def interactiveFrom (before : List Char) : List (Option String) → List Reading
  | [] => []
  | none :: rest => badEncoding "<terminal>" :: interactiveFrom [] rest
  | some line :: rest =>
    let (body, lineEnd) := splitEnd (before ++ line.toList)
    match Text.erase? body with
    | none => [.crashed]
    | some text =>
      if Shell.isIncomplete text then interactiveFrom (text ++ lineEnd) rest
      else .line (String.ofList text) :: interactiveFrom [] rest

/-- The readings of an interactive shell. -/
def interactive (bytes : List UInt8) : List Reading := interactiveFrom [] (rawLines bytes)

/-- The readings of an input, which is a batch script or that of an interactive shell. -/
def ofInput (batch : Bool) (bytes : List UInt8) : List Reading :=
  if batch then readings bytes else interactive bytes

end Script

end Interlock
