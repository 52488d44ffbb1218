import Interlock.LineEditor.Completion
import Interlock.Proofs.Text.Run
import Interlock.Proofs.Token.Tiling

/-!
# Completion behind narrow and wide blanks

The word before the cursor begins behind the last blank. Completion takes it to begin one byte
behind the place where that blank begins, which is right for the blanks of one byte; behind a wider
blank it is a place inside the blank, and there is no answer at all.

* `wordStart_append`: where a word is taken to begin. `exists_lastWord`: the word at the end of a
  text, and the blank before it.
* `IsCompletion`: what a completion has to be.
* `complete?_of_notMem`, `complete?_append_cons`: the answer in a text without blanks, and behind
  one.
* `completion?_spec`: there is an answer just behind blanks of one byte, and then it is right.
-/

namespace Interlock.LineEditor

open Text

/-! ## The word before the cursor -/

variable {word : List Char}

theorem wordStart_of_notMem (hword : ∀ c ∈ word, ¬isBlank c) : wordStart word = 0 := by
  have hdrop : word.reverse.dropWhile (!isBlank ·) = [] := by
    rw [List.dropWhile_eq_nil_iff]
    simpa using hword
  rw [wordStart, hdrop]

/-- A word is taken to begin one byte behind the place where the blank before it begins. -/
theorem wordStart_append (hword : ∀ c ∈ word, ¬isBlank c) {b : Char} (hb : isBlank b)
    (l : List Char) : wordStart (l ++ b :: word) = byteSize l + 1 := by
  have hdrop : (l ++ b :: word).reverse.dropWhile (!isBlank ·) = b :: l.reverse := by
    rw [List.reverse_append, List.reverse_cons, List.append_assoc]
    exact dropWhile_append_of_stops (by simpa using hword) (stops_cons.2 (by simpa using hb))
  simp only [wordStart, hdrop, List.reverse_reverse]

/-- A text holds no blank, or it ends in a word behind its last one. -/
theorem exists_lastWord (s : List Char) :
    (∀ c ∈ s, ¬isBlank c) ∨
      ∃ l b word, s = l ++ b :: word ∧ isBlank b ∧ ∀ c ∈ word, ¬isBlank c := by
  obtain ⟨run, rest, hs, hrun, hrest⟩ := exists_run (!isBlank ·) s.reverse
  have hs' : s = rest.reverse ++ run.reverse := by
    rw [← List.reverse_append, ← hs, List.reverse_reverse]
  have hword : ∀ c ∈ run.reverse, ¬isBlank c := by simpa using hrun
  rcases rest with - | ⟨b, rest⟩
  · exact .inl (by simpa [hs'] using hword)
  · exact .inr ⟨rest.reverse, b, run.reverse, by simpa using hs', by simpa using hrest, hword⟩

/-! ## Answers -/

/-- The words which go on with what is written of one. -/
def candidates (word : List Char) : List String := keywords.filter (word.isPrefixOf ·.toList)

/-- The answer goes on with the part of the line from where the word is taken to begin. -/
theorem complete?_append (before behind : List Char) :
    complete? (before ++ behind) (byteSize before) =
      (slice (wordStart before) (byteSize before) (before ++ behind)).map fun word =>
        (wordStart before, candidates word) := by
  rw [complete?, splitAtByte_byteSize]
  rcases hslice : slice (wordStart before) (byteSize before) (before ++ behind) with - | word
  · simp [hslice]
  · simp [hslice, candidates]

theorem complete?_of_notMem (hword : ∀ c ∈ word, ¬isBlank c) (behind : List Char) :
    complete? (word ++ behind) (byteSize word) = some (0, candidates word) := by
  have hslice : slice 0 (byteSize word) (word ++ behind) = some word := slice_append [] word behind
  rw [complete?_append, wordStart_of_notMem hword, hslice]
  rfl

/-- The place one byte behind the beginning of a character is inside the character, unless that is
    all of it. -/
theorem splitAtByte_succ {c : Char} (hc : c.utf8Size ≠ 1) (a b : List Char) :
    splitAtByte (byteSize a + 1) (a ++ c :: b) = none := by
  have hpos := c.utf8Size_pos
  rw [splitAtByte_append, splitAtByte, if_neg (by decide), if_pos (by omega)]
  rfl

theorem complete?_append_cons (hword : ∀ c ∈ word, ¬isBlank c) {b : Char} (hb : isBlank b)
    (l behind : List Char) :
    complete? (l ++ b :: word ++ behind) (byteSize (l ++ b :: word)) =
      if b.utf8Size = 1 then some (byteSize (l ++ [b]), candidates word) else none := by
  rw [complete?_append, wordStart_append hword hb]
  by_cases hsize : b.utf8Size = 1
  · have hstart : byteSize l + 1 = byteSize (l ++ [b]) := by simp [hsize]
    have hslice := slice_append (l ++ [b]) word behind
    simp only [List.append_assoc, List.singleton_append] at hslice
    rw [if_pos hsize, hstart, List.append_assoc, List.cons_append, hslice]
    rfl
  · have hpos := b.utf8Size_pos
    have hle : byteSize l + 1 ≤ byteSize (l ++ b :: word) := by simp; omega
    rw [if_neg hsize, slice, if_pos hle, List.append_assoc, List.cons_append,
      splitAtByte_succ hsize]
    rfl

/-! ## Right answers -/

/-- What a completion before a place in a line has to be. It begins at a place no later than that;
    between the two there is a word without blanks, which stands at the beginning of the line or
    behind a blank; and it offers the words which go on with that one, in their order. -/
structure IsCompletion (line : List Char) (position start : Nat) (offered : List String) :
    Prop where
  start_le : start ≤ position
  left : ∃ left rest, splitAtByte start line = some (left, rest) ∧ ∀ b ∈ left.getLast?, isBlank b
  word : ∃ word, slice start position line = some word ∧ (∀ c ∈ word, ¬isBlank c) ∧
    offered = keywords.filter (word.isPrefixOf ·.toList)

theorem isCompletion_append (left : List Char) (hleft : ∀ b ∈ left.getLast?, isBlank b)
    (hword : ∀ c ∈ word, ¬isBlank c) (behind : List Char) :
    IsCompletion (left ++ word ++ behind) (byteSize (left ++ word)) (byteSize left)
      (candidates word) where
  start_le := by simp
  left := ⟨left, word ++ behind, by rw [List.append_assoc, splitAtByte_byteSize], hleft⟩
  word := ⟨word, by rw [List.append_assoc, slice_append], hword, rfl⟩

/-- In a line which asks for no file, the word before a place between two characters is completed
    just if no blank stands before it or the last one is a single byte, and then it is completed
    right. -/
theorem completion?_spec {tree : FileTree} {line before behind : List Char} {position : Nat}
    (hfile : ¬wantsFile line) (hplace : splitAtByte position line = some (before, behind)) :
    ((∃ answer, completion? tree line position = some answer) ↔
      ∀ b ∈ before.reverse.find? isBlank, b.utf8Size = 1) ∧
    ∀ start offered, completion? tree line position = some (start, offered) →
      IsCompletion line position start offered := by
  obtain ⟨rfl, rfl⟩ := eq_append_of_splitAtByte hplace
  rw [completion?, if_neg hfile]
  rcases exists_lastWord before with hword | ⟨l, b, word, rfl, hb, hword⟩
  · have hfind : before.reverse.find? isBlank = none := by simpa using hword
    rw [hfind, complete?_of_notMem hword]
    refine ⟨iff_of_true ⟨_, rfl⟩ nofun, ?_⟩
    rintro start offered ⟨⟩
    exact isCompletion_append [] nofun hword behind
  · have hfind : (l ++ b :: word).reverse.find? isBlank = some b := by
      have hnone : word.reverse.find? isBlank = none := by simpa using hword
      simp [hnone, hb]
    rw [hfind, complete?_append_cons hword hb]
    refine ⟨by simp, fun start offered hanswer => ?_⟩
    obtain ⟨hsize, heq⟩ := Option.ite_none_right_eq_some.1 hanswer
    cases heq
    have h := isCompletion_append (l ++ [b]) (by simpa using hb) hword behind
    rwa [List.append_assoc l, List.singleton_append] at h

/-- The second word of a line is completed although it is not the last one. -/
example : completion? {} "x O y".toList 3 = some (2, ["OR", "OVERLAPS"]) := by decide

/-- Behind a wide blank there is no answer. -/
example : completion? {} "\u3000AC".toList 5 = none := by decide

end Interlock.LineEditor
