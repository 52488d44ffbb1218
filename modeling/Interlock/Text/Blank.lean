/-!
# Blanks

The white space of rule text is the Unicode property `White_Space`: the tab and the four controls
after it, the space, the next-line control and the wide spaces. Text is handled as a list of
characters, and a text is *blank* when it holds nothing else.

* `isBlank`: the property, as a test on one character.
* `trim`: a text without the blanks at its two ends.
* `words`: the maximal runs of other characters, in order.
* `isBlank_of_isWhitespace`: the white space of ASCII is blank.
-/

namespace Interlock.Text

/-- The characters of the Unicode property `White_Space`. -/
def isBlank (c : Char) : Bool :=
  let n := c.toNat
  (0x09 ≤ n && n ≤ 0x0d) || n == 0x20 || n == 0x85 || n == 0xa0 || n == 0x1680 ||
    (0x2000 ≤ n && n ≤ 0x200a) || n == 0x2028 || n == 0x2029 || n == 0x202f || n == 0x205f ||
    n == 0x3000

theorem isBlank_of_isWhitespace {c : Char} (h : c.isWhitespace) : isBlank c := by
  simp only [Char.isWhitespace, Bool.or_eq_true, decide_eq_true_eq] at h
  rcases h with ((h | h) | h) | h <;> subst h <;> decide

/-- A text without the blanks at its start. -/
def trimStart (s : List Char) : List Char := s.dropWhile isBlank

/-- A text without the blanks at its end. -/
def trimEnd (s : List Char) : List Char := (s.reverse.dropWhile isBlank).reverse

/-- A text without the blanks at its two ends. -/
def trim (s : List Char) : List Char := trimEnd (trimStart s)

/-- The words of a text which goes on a word begun before it. -/
def wordsFrom (word : List Char) : List Char → List (List Char)
  | [] => if word.isEmpty then [] else [word]
  | c :: cs =>
    if isBlank c then
      if word.isEmpty then wordsFrom [] cs else word :: wordsFrom [] cs
    else wordsFrom (word ++ [c]) cs

/-- The maximal runs of characters which are not blank, in order. -/
def words (s : List Char) : List (List Char) := wordsFrom [] s

/-- `trim` on strings. -/
def trimmed (s : String) : String := String.ofList (trim s.toList)

/-- The text holds blanks only. -/
def isBlankText (s : String) : Bool := s.toList.all isBlank

end Interlock.Text
