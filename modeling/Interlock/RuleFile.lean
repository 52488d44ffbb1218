import Interlock.RuleSet
import Interlock.Statement
import Interlock.Text.Cut

/-!
# Rule files

A rule file holds one statement a line. Blank lines and comments are skipped, if the options allow
it; the first line which is no statement ends the reading, with its place in the file.

* `RuleFile.read`: the rules of a text. `RuleFile.load`: the rules of a file.
* `RuleFile.defaults`: the rules that come with the program: two agents may not end in one cell, nor
  follow each other, nor use edges that touch.
-/

namespace Interlock

/-- Reads the text of a path, or says why it cannot be read. -/
abbrev Files := String → Except String String

namespace RuleFile

/-- How rule files are read. -/
structure Options where
  /-- Blank lines are skipped, and not read as statements. -/
  skipBlankLines : Bool := true
  /-- Lines which start so, behind blanks, are comments. The empty text starts no comment. -/
  commentPrefix : Option String := some "#"
  /-- What messages call the source. -/
  source : Option String := none
  deriving DecidableEq

namespace Options

/-- Every line which is not blank is a statement. -/
def strict : Options := { commentPrefix := none }

/-- The line is a comment. -/
def isComment (o : Options) (line : String) : Bool :=
  match o.commentPrefix with
  | none => false
  | some mark => !mark.isEmpty && mark.toList.isPrefixOf (Text.trimStart line.toList)

end Options

/-- The rules of the lines from a line number on. -/
def readFrom (o : Options) (number : Nat) : List String → Traced (List Rule)
  | [] => return []
  | line :: lines => do
    if o.skipBlankLines && Text.isBlankText line then
      .emit (.blankSkipped number)
      readFrom o (number + 1) lines
    else if o.isComment line then
      .emit (.commentSkipped number)
      readFrom o (number + 1) lines
    else
      let rule ← (Rule.read line).located { source := o.source, line := some number }
      return rule :: (← readFrom o (number + 1) lines)

/-- The rules of a text. -/
def read (o : Options) (text : String) : Traced (List Rule) := do
  let rules ← readFrom o 1 (Text.lines text)
  .emit (.rulesLoaded (o.source.getD "<string>") rules.length)
  return rules

/-- The rules of a file, which messages call by its path unless the options name the source. -/
def load (files : Files) (o : Options) (path : String) : Traced (List Rule) :=
  match files path with
  | .error reason => .fail { cause := .unreadable path reason }
  | .ok text => read { o with source := some (o.source.getD path) } text

/-- The text of the rules that come with the program. -/
def defaultText : String := "\n".intercalate [
  "# Default conflict rules for the hospital grid domain.",
  "#",
  "# Two agents may not end a step in the same cell.",
  "ACTION a IS BLOCKED BY ACTION b IF a.dest IS b.dest",
  "# An agent may not move into the cell another agent is leaving.",
  "ACTION a IS BLOCKED BY ACTION b IF a.dest IS b.orig",
  "# Two agents may not traverse touching edges in the same step.",
  "ACTION a IS BLOCKED BY ACTION b IF a.edge OVERLAPS WITH b.edge",
  ""]

/-- What messages call the rules that come with the program. -/
def defaultSource : String := "<default rules>"

/-- The rules that come with the program. -/
def defaults : Traced (List Rule) := read { source := some defaultSource } defaultText

end RuleFile

end Interlock
