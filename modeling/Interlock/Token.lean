import Interlock.Text.Offset
import Interlock.Text.Quoted

/-!
# Tokens

The pieces of a rule text: keywords, names, references to fields, integers and strings, pieces which
are none of these, and the end of the text. A token knows which part of the source it covers.

* `Span`: a part of a source, in bytes, with the column where it starts.
* `Token.Kind`: what a token is. `Token.Kind.render`: how messages call it.
-/

namespace Interlock

/-- A part of a source. -/
structure Span where
  /-- The byte offset where the part starts. -/
  start : Nat
  /-- The byte offset behind the part. -/
  stop : Nat
  /-- The column where the part starts, in characters and counted from one. It fits in 32 bits if
      the source has less than 2³² - 1 characters. -/
  column : Nat
  deriving DecidableEq

namespace Span

/-- The part from the start of one span to the end of another. -/
def through (a b : Span) : Span := { a with stop := b.stop }

/-- The number of bytes in a part. -/
def size (a : Span) : Nat := a.stop - a.start

/-- The part holds nothing. -/
def isEmpty (a : Span) : Bool := a.start == a.stop

/-- The text of a part of a source; empty if the span is none of its parts. -/
def text (a : Span) (source : String) : String :=
  String.ofList ((Text.slice a.start a.stop source.toList).getD [])

end Span

namespace Token

/-- Why a piece of text is no token of the language. -/
inductive Fault where
  /-- No token starts with this character. -/
  | unexpected (c : Char)
  /-- A string literal has no closing quote. -/
  | unterminated
  /-- A string literal holds a character which it may not. -/
  | notAllowed (c : Char)
  /-- A string literal holds nothing. -/
  | emptyString
  /-- A run of digits is greater than any integer. -/
  | outOfRange (run : String)
  /-- A run of letters, digits, underscores and dots has none of the known shapes. -/
  | malformed (run : String)
  deriving DecidableEq

/-- The message of a fault. -/
def Fault.message : Fault → String
  | unexpected c => "unexpected character: " ++ Text.quotedChar c
  | unterminated => "unterminated string literal"
  | notAllowed c => "character " ++ Text.quotedChar c ++ " not allowed in string literal"
  | emptyString => "empty string literal"
  | outOfRange run => "integer out of range: " ++ run
  | malformed run => "malformed word: " ++ run

/-- What a token is. -/
inductive Kind where
  /-- A word of capital letters, such as `ACTION` or `IS`. -/
  | word (text : String)
  /-- A name of small letters. -/
  | name (text : String)
  /-- A name, a dot and the spelling of a field, which may be unknown. -/
  | reference (name field : String)
  /-- An integer, which has no sign. -/
  | int (value : Int64)
  /-- A text between single quotes, given without them. -/
  | str (text : String)
  /-- A piece of text which is no token. -/
  | invalid (fault : Fault)
  /-- The end of the text. -/
  | eof
  deriving DecidableEq

namespace Kind

/-- What messages call a token. -/
def render : Kind → String
  | word w => "keyword " ++ w
  | name n => "name " ++ n
  | reference n f => "reference " ++ n ++ "." ++ f
  | int n => "integer " ++ n.toInt.repr
  | str s => "string '" ++ s ++ "'"
  | invalid fault => "invalid token (" ++ fault.message ++ ")"
  | eof => "end of input"

/-- The token can stand as an operand of a clause. -/
def isOperand : Kind → Bool
  | str _ | int _ | reference _ _ => true
  | _ => false

/-- The word, if the token is one. -/
def word? : Kind → Option String
  | word w => some w
  | _ => none

end Kind

end Token

/-- A piece of a rule text. -/
structure Token where
  kind : Token.Kind
  /-- The text that the token covers. -/
  text : String
  /-- The part of the source that the token covers. -/
  span : Span
  deriving DecidableEq

end Interlock
