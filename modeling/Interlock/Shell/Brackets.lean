/-!
# Open brackets

An action literal may go over several lines: the shell keeps reading while more square brackets are
open than closed. Brackets between single quotes do not count.
-/

namespace Interlock.Shell

/-- The number of brackets left open, given the number before a text and whether the text starts
    between quotes. -/
def depthFrom (quoted : Bool) (depth : Int) : List Char → Int
  | [] => depth
  | '\'' :: cs => depthFrom (!quoted) depth cs
  | '[' :: cs => depthFrom quoted (if quoted then depth else depth + 1) cs
  | ']' :: cs => depthFrom quoted (if quoted then depth else depth - 1) cs
  | _ :: cs => depthFrom quoted depth cs

/-- The text has an open bracket, so that more of it has to follow. -/
def isIncomplete (s : List Char) : Bool := 0 < depthFrom false 0 s

end Interlock.Shell
