import Interlock.Text.Decimal

/-!
# JSON

The values of JSON, and how they are read from text. A text is first cut into lexemes, which a
machine with a stack of open arrays and objects then puts together.

* `Json.lexemes?`: the lexemes of a text.
* `Json.read?`: the value of a text, which has to be one value and nothing else.
-/

namespace Interlock

/-- A value of JSON. Numbers are known if they are integers, other than the negative zero; strings
    and keys are known if their escapes spell a text. -/
inductive Json where
  | null
  | bool (value : Bool)
  | number (value : Option Int)
  | string (text : Option String)
  | array (elements : List Json)
  | object (members : List (Option String × Json))

namespace Json

/-- A piece of a JSON text. -/
inductive Lexeme where
  | openArray
  | closeArray
  | openObject
  | closeObject
  | comma
  | colon
  /-- A value which is neither an array nor an object. -/
  | atom (value : Json)

/-! ## Strings -/

/-- The value of a hexadecimal digit. -/
def hexDigit? (c : Char) : Option Nat :=
  if '0' ≤ c ∧ c ≤ '9' then some (c.toNat - '0'.toNat)
  else if 'a' ≤ c ∧ c ≤ 'f' then some (c.toNat - 'a'.toNat + 10)
  else if 'A' ≤ c ∧ c ≤ 'F' then some (c.toNat - 'A'.toNat + 10)
  else none

/-- The value of four hexadecimal digits. -/
def hex4? (a b c d : Char) : Option Nat := do
  return 4096 * (← hexDigit? a) + 256 * (← hexDigit? b) + 16 * (← hexDigit? c) + (← hexDigit? d)

/-- The character of an escape of one letter. -/
def escaped? : Char → Option Char
  | '"' => some '"'
  | '\\' => some '\\'
  | '/' => some '/'
  | 'b' => some '\x08'
  | 'f' => some '\x0c'
  | 'n' => some '\n'
  | 'r' => some '\r'
  | 't' => some '\t'
  | _ => none

/-- One more code unit in front of others, before the same rest. -/
def push (n : Nat) (p : List Nat × List Char) : List Nat × List Char := (n :: p.1, p.2)

/-- The code units of a string behind its opening quote, and the rest. Controls have to be
    escaped. -/
def readString? : List Char → Option (List Nat × List Char)
  | [] => none
  | '"' :: cs => some ([], cs)
  | '\\' :: 'u' :: a :: b :: c :: d :: cs =>
    match hex4? a b c d with
    | some n => (readString? cs).map (push n)
    | none => none
  | '\\' :: c :: cs =>
    match escaped? c with
    | some d => (readString? cs).map (push d.toNat)
    | none => none
  | c :: cs => if c.toNat < 0x20 then none else (readString? cs).map (push c.toNat)

/-- The text of some code units: two surrogates, a high one and a low one, are one character, and no
    surrogate stands alone. -/
def ofUnits? : List Nat → Option (List Char)
  | [] => some []
  | n :: ns =>
    if 0xd800 ≤ n ∧ n < 0xdc00 then
      match ns with
      | m :: ns =>
        if 0xdc00 ≤ m ∧ m < 0xe000 then
          (ofUnits? ns).map (Char.ofNat (0x10000 + 0x400 * (n - 0xd800) + (m - 0xdc00)) :: ·)
        else none
      | [] => none
    else if 0xdc00 ≤ n ∧ n < 0xe000 then none
    else (ofUnits? ns).map (Char.ofNat n :: ·)

theorem readString?_rest_lt {s : List Char} {p : List Nat × List Char}
    (h : readString? s = some p) : p.2.length < s.length := by
  fun_induction readString? s generalizing p with
  | case2 => cases h; simp
  | case3 a b c d cs n _ ih | case5 c cs _ d _ ih | case8 c cs _ _ _ _ ih =>
    obtain ⟨q, hq, rfl⟩ := Option.map_eq_some_iff.1 h
    have := ih hq
    simp only [push, List.length_cons]
    omega
  | _ => cases h

/-! ## Numbers -/

/-- The characters of numbers. -/
def isNumberChar (c : Char) : Bool :=
  c.isDigit || c == '-' || c == '+' || c == '.' || c == 'e' || c == 'E'

/-- One or more digits stand at the head of a text; what follows them. -/
def dropDigits? : List Char → Option (List Char)
  | c :: cs => if c.isDigit then some (cs.dropWhile Char.isDigit) else none
  | [] => none

/-- What follows the integer part of a number is nothing, or a fraction and an exponent, each of
    which may be missing. -/
def isFraction (s : List Char) : Bool :=
  let afterPoint? := match s with
    | '.' :: cs => dropDigits? cs
    | s => some s
  match afterPoint? with
  | none => false
  | some [] => true
  | some (c :: cs) =>
    (c == 'e' || c == 'E') &&
      (match cs with
      | '+' :: ds => dropDigits? ds
      | '-' :: ds => dropDigits? ds
      | ds => dropDigits? ds) == some []

/-- The number that a run of its characters spells. A zero begins no longer number. -/
def number? (run : List Char) : Option Json :=
  let negative := run.head? == some '-'
  let digits := if negative then run.drop 1 else run
  let whole := digits.takeWhile Char.isDigit
  let rest := digits.dropWhile Char.isDigit
  if whole.isEmpty || (whole.head? == some '0' && 1 < whole.length) then none
  else if rest.isEmpty then
    let n := Text.digitsFrom 0 whole
    some (.number (if negative then if n = 0 then none else some (-(n : Int)) else some n))
  else if isFraction rest then some (.number none)
  else none

/-! ## Texts -/

/-- The lexeme at the head of a text which does not start with a blank, and the rest. -/
def lexeme? (c : Char) (cs : List Char) : Option (Lexeme × List Char) :=
  match c, cs with
  | '[', cs => some (.openArray, cs)
  | ']', cs => some (.closeArray, cs)
  | '\x7b', cs => some (.openObject, cs)
  | '\x7d', cs => some (.closeObject, cs)
  | ',', cs => some (.comma, cs)
  | ':', cs => some (.colon, cs)
  | 'n', 'u' :: 'l' :: 'l' :: cs => some (.atom .null, cs)
  | 't', 'r' :: 'u' :: 'e' :: cs => some (.atom (.bool true), cs)
  | 'f', 'a' :: 'l' :: 's' :: 'e' :: cs => some (.atom (.bool false), cs)
  | '"', cs => (readString? cs).map fun (ns, rest) =>
    (.atom (.string ((ofUnits? ns).map String.ofList)), rest)
  | c, cs =>
    if isNumberChar c then
      (number? (c :: cs.takeWhile isNumberChar)).map fun n =>
        (.atom n, cs.dropWhile isNumberChar)
    else none

theorem lexeme?_rest_le {c : Char} {cs : List Char} {p : Lexeme × List Char}
    (h : lexeme? c cs = some p) : p.2.length ≤ cs.length := by
  unfold lexeme? at h
  split at h
  case h_10 =>
    obtain ⟨q, hq, rfl⟩ := Option.map_eq_some_iff.1 h
    exact Nat.le_of_lt (readString?_rest_lt hq)
  case h_11 =>
    split at h
    · obtain ⟨n, -, rfl⟩ := Option.map_eq_some_iff.1 h
      exact (List.dropWhile_sublist _).length_le
    · cases h
  all_goals
    cases h
    grind

/-- The blanks of JSON. -/
def isSpace (c : Char) : Bool := c == ' ' || c == '\n' || c == '\t' || c == '\r'

/-- The lexemes of a text. -/
def lexemes? (s : List Char) : Option (List Lexeme) :=
  match s with
  | [] => some []
  | c :: cs =>
    if isSpace c then lexemes? cs
    else match _h : lexeme? c cs with
      | none => none
      | some (l, rest) => (lexemes? rest).map (l :: ·)
termination_by s.length
decreasing_by
  · simp
  · exact Nat.lt_succ_of_le (lexeme?_rest_le _h)

/-- An array or object which is open, with what it has so far. -/
inductive Frame where
  | array (elements : List Json)
  | object (members : List (Option String × Json)) (key : Option String)

/-- What the machine waits for. -/
inductive Mode where
  | value
  | valueOrEnd
  | key
  | keyOrEnd
  | colon
  | commaOrEnd
  /-- The whole value was read. -/
  | done (value : Json)

/-- The machine: what it waits for, and the arrays and objects which are open. -/
structure Machine where
  mode : Mode := .value
  stack : List Frame := []

/-- The machine when a value is complete: the value goes into what encloses it. -/
def give (v : Json) : List Frame → Machine
  | [] => ⟨.done v, []⟩
  | .array vs :: stack => ⟨.commaOrEnd, .array (vs ++ [v]) :: stack⟩
  | .object ms key :: stack => ⟨.commaOrEnd, .object (ms ++ [(key, v)]) none :: stack⟩

/-- The machine after one lexeme, if the lexeme can stand there. -/
def step (m : Machine) (l : Lexeme) : Option Machine :=
  match m.mode, l, m.stack with
  | .value, .atom v, stack | .valueOrEnd, .atom v, stack => some (give v stack)
  | .value, .openArray, stack | .valueOrEnd, .openArray, stack =>
    some ⟨.valueOrEnd, .array [] :: stack⟩
  | .value, .openObject, stack | .valueOrEnd, .openObject, stack =>
    some ⟨.keyOrEnd, .object [] none :: stack⟩
  | .valueOrEnd, .closeArray, .array vs :: stack => some (give (.array vs) stack)
  | .keyOrEnd, .closeObject, .object ms _ :: stack => some (give (.object ms) stack)
  | .key, .atom (.string key), .object ms _ :: stack
  | .keyOrEnd, .atom (.string key), .object ms _ :: stack =>
    some ⟨.colon, .object ms key :: stack⟩
  | .colon, .colon, stack => some ⟨.value, stack⟩
  | .commaOrEnd, .comma, .array vs :: stack => some ⟨.value, .array vs :: stack⟩
  | .commaOrEnd, .comma, .object ms key :: stack => some ⟨.key, .object ms key :: stack⟩
  | .commaOrEnd, .closeArray, .array vs :: stack => some (give (.array vs) stack)
  | .commaOrEnd, .closeObject, .object ms _ :: stack => some (give (.object ms) stack)
  | _, _, _ => none

/-- The machine after some lexemes. -/
def steps (m : Machine) : List Lexeme → Option Machine
  | [] => some m
  | l :: ls => do steps (← step m l) ls

/-- The value of a text. -/
def read? (text : String) : Option Json := do
  let m ← steps {} (← lexemes? text.toList)
  match m.mode with
  | .done v => some v
  | _ => none

end Json

end Interlock
