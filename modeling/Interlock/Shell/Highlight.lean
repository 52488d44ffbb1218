import Interlock.Token.Scan

/-!
# Highlighting

A line of the shell is coloured by the tokens of the language, so that the colours agree with what
the reading of rules sees; names keep the colour of the terminal. A command is coloured as a word.

* `Highlight.stitch`: a line with the texts of some tokens in colours, and what is between them.
* `Highlight.line`: a line with colours. Colours are put around texts, and nothing else is changed.
-/

namespace Interlock.Highlight

open Text

/-- What ends a colour. -/
def reset : String := "\x1b[0m"

/-- What begins the colour of a token; names have none. -/
def color? : Token.Kind → Option String
  | .word w =>
    if w = "ACTION" ∨ w = "IF" then some "\x1b[1;32m"
    else if w = "AND" ∨ w = "OR" ∨ w = "NOT" then some "\x1b[1m"
    else some "\x1b[32m"
  | .reference .. => some "\x1b[36m"
  | .str _ => some "\x1b[33m"
  | .int _ => some "\x1b[35m"
  | .invalid _ => some "\x1b[31m"
  | .name _ | .eof => none

/-- A text in a colour, if one is given. -/
def paint (color : Option String) (text : List Char) : List Char :=
  match color with
  | some c => c.toList ++ text ++ reset.toList
  | none => text

/-- The part of a line between two places; empty if one of them is no place. -/
def part (s : List Char) (start stop : Nat) : List Char := (slice start stop s).getD []

/-- A line from a place on, with some tokens which stand behind the place in colours. What is
    between the tokens is copied. -/
def stitch (s : List Char) (copied : Nat) : List Token → List Char
  | [] => part s copied (byteSize s)
  | t :: ts =>
    part s copied t.span.start ++ paint (color? t.kind) (part s t.span.start t.span.stop) ++
      stitch s t.span.stop ts

/-- A rule text with its tokens in colours, up to the first which is the end. -/
def statement (s : String) : List Char :=
  stitch s.toList 0 ((Token.ofSource s).takeWhile (·.kind ≠ .eof))

/-- A command with its first word in colour. -/
def command (s : List Char) : List Char :=
  let start := byteSize s - byteSize (trimStart s)
  let word := (part s start (byteSize s)).takeWhile (!isBlank ·)
  let stop := start + byteSize word
  part s 0 start ++ paint (some "\x1b[36m") (part s start stop) ++ part s stop (byteSize s)

/-- A line of the shell with colours. -/
def line (s : String) : String :=
  match trimStart s.toList with
  | [] => s
  | ':' :: _ => String.ofList (command s.toList)
  | _ => String.ofList (statement s)

end Interlock.Highlight
