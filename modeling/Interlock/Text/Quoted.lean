import Interlock.Text.Unicode

/-!
# Quoted text

Messages show foreign text between quotes, with an escape for every character which would not
show as itself: the quote, the backslash, the usual controls by letter, and every other
unprintable or joining character by its code point in hexadecimal.

* `showsAsItself`: the characters which need no code point.
* `quoted`: a text between double quotes.
* `quotedChar`: one character between single quotes.
-/

namespace Interlock.Text

/-- The code point of a character in hexadecimal, as `\u{301}`. -/
def hexEscape (c : Char) : List Char :=
  ['\\', 'u', '{'] ++ Nat.toDigits 16 c.toNat ++ ['}']

/-- A Hangul filler: a letter which takes a place and shows nothing there. -/
def isFiller (c : Char) : Bool := c == '\u115f' || c == '\u1160' || c == '\u3164' || c == '\uffa0'

/-- A halfwidth sound mark of Katakana: it belongs to the letter before it, but shows behind it. -/
def isSoundMark (c : Char) : Bool := c == '\uff9e' || c == '\uff9f'

/-- A character which can be read off where it stands. -/
def showsAsItself (c : Char) : Bool :=
  !isUnprintable c && !isFiller c && (!isGraphemeExtender c || isSoundMark c)

/-- A character as it shows between two of the given quotes. -/
def escape (quote c : Char) : List Char :=
  if c = '\x00' then ['\\', '0']
  else if c = '\t' then ['\\', 't']
  else if c = '\n' then ['\\', 'n']
  else if c = '\r' then ['\\', 'r']
  else if c = '\\' || c = quote then ['\\', c]
  else if showsAsItself c then [c]
  else hexEscape c

/-- A text between double quotes. -/
def quoted (s : String) : String :=
  String.ofList ('"' :: s.toList.flatMap (escape '"') ++ ['"'])

/-- A character between single quotes. -/
def quotedChar (c : Char) : String :=
  String.ofList ('\'' :: escape '\'' c ++ ['\''])

end Interlock.Text
