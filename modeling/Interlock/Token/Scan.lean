import Interlock.Text.Blank
import Interlock.Text.Cut
import Interlock.Text.Decimal
import Interlock.Token

/-!
# Scanning

Blanks separate tokens. A quote starts a string literal; a run of letters, digits, underscores and
dots is classified by its shape; any other character is a faulty token of its own.

* `scan`: the kind and the text of the token at the head of a text, and the rest of the text.
  `scan_append`: nothing is lost. `scan_rest_lt`: the rest of a text which is not empty is shorter.
* `Cursor`: a place in a source. `Cursor.next`: the next token, and the place behind it.
* `Token.ofSource`: all tokens of a source, up to and with the end.
-/

namespace Interlock

open Text

namespace Token

/-- The characters of bare runs. -/
def isBare (c : Char) : Bool := c.isAlphanum || c == '_' || c == '.'

/-- The characters which may stand in a string literal. -/
def isStringChar (c : Char) : Bool :=
  c.isAlphanum || c == '_' || c == ' ' || c == '\t' || c == '(' || c == ')' || c == ',' ||
    c == '.' || c == '*'

/-- A name is a run of one or more small ASCII letters. -/
def isName (s : List Char) : Bool := !s.isEmpty && s.all Char.isLower

/-- What a run of letters, digits, underscores and dots is, by its shape. -/
def classify (run : List Char) : Kind :=
  if run.all Char.isUpper then .word (String.ofList run)
  else if isName run then .name (String.ofList run)
  else
    let digits : Kind :=
      if run.all Char.isDigit then
        match int64? run with
        | some n => .int n
        | none => .invalid (.outOfRange (String.ofList run))
      else .invalid (.malformed (String.ofList run))
    match cutWhere (· == '.') run with
    | some (name, field) =>
      if isName name && isName field then .reference (String.ofList name) (String.ofList field)
      else digits
    | none => digits

/-- A text up to and with its first quote, and the rest. -/
def throughQuote : List Char → List Char × List Char
  | [] => ([], [])
  | c :: cs =>
    if c = '\'' then ([c], cs)
    else let (text, rest) := throughQuote cs; (c :: text, rest)

/-- The string literal at the head of a text which has lost its opening quote: what it is, its
    text, and the rest. A character which may not stand in a literal makes it faulty up to and with
    its closing quote. -/
def scanString (s : List Char) : Kind × List Char × List Char :=
  let body := s.takeWhile isStringChar
  match s.dropWhile isStringChar with
  | [] => (.invalid .unterminated, body, [])
  | c :: cs =>
    if c = '\'' then
      (if body.isEmpty then .invalid .emptyString else .str (String.ofList body), body ++ [c], cs)
    else
      let (text, rest) := throughQuote (c :: cs)
      (.invalid (.notAllowed c), body ++ text, rest)

/-- The token at the head of a text which does not start with a blank: what it is, its text, and the
    rest. -/
def scan : List Char → Kind × List Char × List Char
  | [] => (.eof, [], [])
  | c :: cs =>
    if c = '\'' then
      let (kind, text, rest) := scanString cs
      (kind, c :: text, rest)
    else if isBare c then
      let run := c :: cs.takeWhile isBare
      (classify run, run, cs.dropWhile isBare)
    else (.invalid (.unexpected c), [c], cs)

theorem throughQuote_append (s : List Char) : (throughQuote s).1 ++ (throughQuote s).2 = s := by
  induction s with
  | nil => rfl
  | cons c cs ih =>
    rw [throughQuote]
    split <;> simp [ih]

theorem scanString_append (s : List Char) : (scanString s).2.1 ++ (scanString s).2.2 = s := by
  have h := List.takeWhile_append_dropWhile (p := isStringChar) (l := s)
  unfold scanString
  split
  · next hd => simpa [hd] using h
  · next c cs hd =>
    rw [hd] at h
    split
    · simpa using h
    · simpa [throughQuote_append] using h

/-- The text of a token and the rest of the source are the source. -/
theorem scan_append (s : List Char) : (scan s).2.1 ++ (scan s).2.2 = s := by
  unfold scan
  split
  · rfl
  · split
    · simp [scanString_append]
    · split <;> simp [List.takeWhile_append_dropWhile]

theorem scan_text_ne_nil (c : Char) (cs : List Char) : (scan (c :: cs)).2.1 ≠ [] := by
  unfold scan
  simp only
  split
  · simp
  · split <;> simp

theorem scan_rest_lt (c : Char) (cs : List Char) :
    (scan (c :: cs)).2.2.length < (c :: cs).length := by
  have h := congrArg List.length (scan_append (c :: cs))
  have := List.length_pos_iff.2 (scan_text_ne_nil c cs)
  rw [List.length_append] at h
  omega

end Token

/-- A place in a source: the characters behind it, the bytes before it, and its column, counted in
    characters from one. -/
structure Cursor where
  rest : List Char
  offset : Nat := 0
  column : Nat := 1
  deriving DecidableEq

namespace Cursor

/-- The place at the start of a source. -/
def ofSource (source : String) : Cursor := { rest := source.toList }

/-- The place behind the given characters, before the given rest. -/
def advance (c : Cursor) (taken rest : List Char) : Cursor :=
  ⟨rest, c.offset + byteSize taken, c.column + taken.length⟩

/-- The place behind the blanks which follow. -/
def skipBlanks (c : Cursor) : Cursor :=
  c.advance (c.rest.takeWhile isBlank) (c.rest.dropWhile isBlank)

/-- The next token, and the place behind it. At the end of the source this is the end again. -/
def next (c : Cursor) : Token × Cursor :=
  let first := c.skipBlanks
  let (kind, text, rest) := Token.scan first.rest
  let last := first.advance text rest
  (⟨kind, String.ofList text, ⟨first.offset, last.offset, first.column⟩⟩, last)

/-- The place behind the next token is nearer to the end, unless only blanks follow. -/
theorem next_rest_lt (c : Cursor) (h : c.skipBlanks.rest ≠ []) :
    c.next.2.rest.length < c.rest.length := by
  have hle : c.skipBlanks.rest.length ≤ c.rest.length := (List.dropWhile_sublist _).length_le
  obtain ⟨d, ds, hd⟩ := List.exists_cons_of_ne_nil h
  rw [hd] at hle
  calc c.next.2.rest.length
    _ = (Token.scan (d :: ds)).2.2.length := by rw [← hd]; rfl
    _ < (d :: ds).length := Token.scan_rest_lt d ds
    _ ≤ c.rest.length := hle

/-- The tokens behind a place, up to and with the end of the source. -/
def tokens (c : Cursor) : List Token :=
  if c.skipBlanks.rest = [] then [c.next.1] else c.next.1 :: c.next.2.tokens
termination_by c.rest.length
decreasing_by exact c.next_rest_lt ‹_›

/-- A number of tokens behind a place. Behind the end, the end comes again. -/
def take : Nat → Cursor → List Token
  | 0, _ => []
  | n + 1, c => c.next.1 :: take n c.next.2

end Cursor

/-- All tokens of a source, up to and with the end. -/
def Token.ofSource (source : String) : List Token := (Cursor.ofSource source).tokens

end Interlock
