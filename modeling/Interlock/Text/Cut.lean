/-!
# Cutting text

Three ways to cut a list: at the first element with a property, at the first place where a mark
stands, and after every element with a property.

* `cutWhere`, `cutAt`: what stands before and after the cut, without the element or the mark.
* `chunks`: the pieces of a list, each of which ends in an element with the property, the last one
  perhaps not. `flatten_chunks`: nothing is lost.
* `lines`: the lines of a text, without their ends.
-/

namespace Interlock.Text

variable {α : Type}

/-- What stands before and after the first element with the property `p`. -/
def cutWhere (p : α → Bool) : List α → Option (List α × List α)
  | [] => none
  | c :: cs => if p c then some ([], cs) else (cutWhere p cs).map fun (a, b) => (c :: a, b)

theorem eq_append_of_cutWhere {p : α → Bool} {s a b : List α} (h : cutWhere p s = some (a, b)) :
    ∃ c, p c ∧ (∀ x ∈ a, ¬p x) ∧ s = a ++ c :: b := by
  induction s generalizing a with
  | nil => simp [cutWhere] at h
  | cons c cs ih =>
    rw [cutWhere] at h
    split at h
    · next hc =>
      obtain ⟨rfl, rfl⟩ : [] = a ∧ cs = b := by simpa using h
      exact ⟨c, hc, by simp, rfl⟩
    · next hc =>
      obtain ⟨⟨a', b'⟩, h', he⟩ := Option.map_eq_some_iff.1 h
      obtain ⟨rfl, rfl⟩ : c :: a' = a ∧ b' = b := by simpa using he
      obtain ⟨d, hd, ha, rfl⟩ := ih h'
      exact ⟨d, hd, by simpa using ⟨by simpa using hc, by simpa using ha⟩, rfl⟩

/-- What stands before and after the first place where the mark stands. -/
def cutAt (mark : List Char) : List Char → Option (List Char × List Char)
  | [] => if mark.isEmpty then some ([], []) else none
  | c :: cs =>
    if mark.isPrefixOf (c :: cs) then some ([], (c :: cs).drop mark.length)
    else (cutAt mark cs).map fun (a, b) => (c :: a, b)

/-- The pieces of a list, each up to and with an element which has the property `p`; what follows
    the last such element is a piece too, unless it is empty. -/
def chunks (p : α → Bool) : List α → List (List α)
  | [] => []
  | c :: cs =>
    if p c then [c] :: chunks p cs
    else match chunks p cs with
      | [] => [[c]]
      | l :: ls => (c :: l) :: ls

theorem flatten_chunks (p : α → Bool) (s : List α) : (chunks p s).flatten = s := by
  induction s with
  | nil => rfl
  | cons c cs ih =>
    rw [chunks]
    split
    · simp [ih]
    · split
      · next h => simp_all
      · next h => rw [h] at ih; simpa using ih

/-- A piece without its line end: a line feed, and one carriage return before it. -/
def dropLineEnd (line : List Char) : List Char :=
  match line.reverse with
  | '\n' :: '\r' :: r => r.reverse
  | '\n' :: r => r.reverse
  | _ => line

/-- The lines of a text, without their ends. A line feed ends a line, so that a text which ends in
    one has no empty line after it. -/
def lines (s : String) : List String :=
  (chunks (· == '\n') s.toList).map fun l => String.ofList (dropLineEnd l)

end Interlock.Text
