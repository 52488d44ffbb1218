/-!
# Byte offsets

A place in a text is counted in bytes of its UTF-8 form, in which a character takes one to four. An
offset inside a character is no place at all.

* `byteSize`: the bytes that a text takes.
* `splitAtByte`: the text before and after a place. `splitAtByte_byteSize`: the end of a first part
  is such a place, and cutting there gives the two parts back. `eq_append_of_splitAtByte`: there are
  no other places.
* `slice`: the text between two places.
-/

namespace Interlock.Text

/-- The bytes that a text takes. -/
def byteSize : List Char → Nat
  | [] => 0
  | c :: cs => c.utf8Size + byteSize cs

@[simp] theorem byteSize_nil : byteSize [] = 0 := rfl

@[simp] theorem byteSize_cons (c : Char) (s : List Char) :
    byteSize (c :: s) = c.utf8Size + byteSize s := rfl

@[simp] theorem byteSize_append (s t : List Char) :
    byteSize (s ++ t) = byteSize s + byteSize t := by
  induction s with
  | nil => simp
  | cons c cs ih => simp [ih, Nat.add_assoc]

/-- The text before and after a byte offset; none if the offset lies inside a character or behind
    the end. -/
def splitAtByte (n : Nat) : List Char → Option (List Char × List Char)
  | [] => if n = 0 then some ([], []) else none
  | c :: cs =>
    if n = 0 then some ([], c :: cs)
    else if n < c.utf8Size then none
    else (splitAtByte (n - c.utf8Size) cs).map fun (a, b) => (c :: a, b)

/-- A text is cut behind a first part as the rest of it is cut. -/
theorem splitAtByte_append (a s : List Char) (n : Nat) :
    splitAtByte (byteSize a + n) (a ++ s) =
      (splitAtByte n s).map fun (x, y) => (a ++ x, y) := by
  induction a with
  | nil => simp
  | cons c cs ih =>
    have hc := c.utf8Size_pos
    have hrest : byteSize (c :: cs) + n - c.utf8Size = byteSize cs + n := by simp; omega
    rw [List.cons_append, splitAtByte, if_neg (by simp; omega), if_neg (by simp; omega), hrest, ih,
      Option.map_map]
    rfl

theorem splitAtByte_zero (s : List Char) : splitAtByte 0 s = some ([], s) := by
  cases s <;> simp [splitAtByte]

theorem splitAtByte_byteSize (a b : List Char) :
    splitAtByte (byteSize a) (a ++ b) = some (a, b) := by
  have h := splitAtByte_append a b 0
  rw [splitAtByte_zero] at h
  simpa using h

theorem eq_append_of_splitAtByte {n : Nat} {s a b : List Char}
    (h : splitAtByte n s = some (a, b)) : s = a ++ b ∧ n = byteSize a := by
  induction s generalizing n a with
  | nil =>
    obtain ⟨rfl, rfl, rfl⟩ : n = 0 ∧ [] = a ∧ [] = b := by simpa [splitAtByte] using h
    exact ⟨rfl, rfl⟩
  | cons c cs ih =>
    rw [splitAtByte] at h
    split at h
    · next hn =>
      cases h
      exact ⟨rfl, hn⟩
    · split at h
      · cases h
      · next hn =>
        obtain ⟨⟨x, y⟩, hx, he⟩ := Option.map_eq_some_iff.1 h
        cases he
        obtain ⟨rfl, hsize⟩ := ih hx
        exact ⟨rfl, by simp; omega⟩

/-- The text between two byte offsets; none if one of them is no place in the text, or the second
    comes first. -/
def slice (start stop : Nat) (s : List Char) : Option (List Char) :=
  if start ≤ stop then do
    let (_, rest) ← splitAtByte start s
    let (text, _) ← splitAtByte (stop - start) rest
    return text
  else none

end Interlock.Text
