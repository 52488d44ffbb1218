import Interlock.Proofs.Text.Run

/-!
# Lines of a text

A text falls into lines, each of which ends in a line feed, the last one perhaps not. The end of a
line is blank, however much of it is taken away, so that it does not matter once the line is
trimmed.

* `chunks_append`, `chunks_append_cons`: where a list is cut first. `chunks_append_of_cut`: a list
  which is cut is cut in two parts. `chunks_flatMap`: how a list is cut in which every element
  stands for some others.
* `lines_intercalate`: lines which are joined by line feeds are read back. `lines_append`: a text
  may be cut at the end of a line.
* `trim_append_of_blank`, `trim_blank_append`, `trim_trim`: blanks at the ends of a text do not
  matter for what is left of it. `trim_dropLineEnd`: neither does the end of a line.
* `head?_trim`, `isBlankText_iff`: what a text begins with is seen once its start is trimmed.
-/

namespace Interlock.Text

/-! ## Pieces -/

section Pieces

variable {α : Type} {p : α → Bool} {s xs : List α}

/-- Some elements without the property, at which no piece ends, belong to the first piece. -/
theorem chunks_append (hne : xs ≠ []) (hxs : ∀ x ∈ xs, ¬p x) (s : List α) :
    chunks p (xs ++ s) = match chunks p s with
      | [] => [xs]
      | l :: ls => (xs ++ l) :: ls := by
  induction xs with
  | nil => exact absurd rfl hne
  | cons x xs ih =>
    rw [List.forall_mem_cons] at hxs
    rw [List.cons_append, chunks, if_neg hxs.1]
    rcases xs with - | ⟨y, xs⟩
    · rfl
    · rw [ih (List.cons_ne_nil y xs) hxs.2]
      rcases chunks p s with - | ⟨l, ls⟩
      · rfl
      · rfl

/-- The first piece ends at the first element with the property. -/
theorem chunks_append_cons {c : α} (hxs : ∀ x ∈ xs, ¬p x) (hc : p c) (s : List α) :
    chunks p (xs ++ c :: s) = (xs ++ [c]) :: chunks p s := by
  have hcons : chunks p (c :: s) = [c] :: chunks p s := by rw [chunks, if_pos hc]
  rcases xs with - | ⟨x, xs⟩
  · exact hcons
  · rw [chunks_append (List.cons_ne_nil x xs) hxs, hcons]

/-- A piece ends wherever an element with the property stands, and the next one starts behind it. -/
theorem chunks_append_of_cut {c : α} (hc : p c) (xs s : List α) :
    chunks p (xs ++ c :: s) = chunks p (xs ++ [c]) ++ chunks p s := by
  induction xs with
  | nil => simp [chunks, hc]
  | cons x xs ih =>
    have hne : chunks p (xs ++ [c]) ≠ [] := by
      intro hnil
      have hflatten := flatten_chunks p (xs ++ [c])
      simp [hnil] at hflatten
    obtain ⟨l, ls, hl⟩ := List.exists_cons_of_ne_nil hne
    rw [List.cons_append, List.cons_append, chunks, chunks, ih, hl]
    by_cases hx : p x
    · rw [if_pos hx, if_pos hx]
      rfl
    · rw [if_neg hx, if_neg hx]
      rfl

/-- If a list falls into pieces at some elements, and every other element stands for elements at
    which no piece ends, then these lists fall into the pieces which the former pieces stand for. -/
theorem chunks_flatMap {β : Type} {q : β → Bool} {f : α → List β}
    (hcut : ∀ x, p x → ∃ y, f x = [y] ∧ q y) (hother : ∀ x, ¬p x → f x ≠ [] ∧ ∀ y ∈ f x, ¬q y)
    (s : List α) : chunks q (s.flatMap f) = (chunks p s).map (List.flatMap f) := by
  induction s with
  | nil => rfl
  | cons x s ih =>
    rw [List.flatMap_cons, chunks]
    by_cases hx : p x
    · obtain ⟨y, hy, hq⟩ := hcut x hx
      rw [if_pos hx, hy, List.singleton_append, chunks, if_pos hq, ih, List.map_cons,
        List.flatMap_singleton, hy]
    · obtain ⟨hne, hnone⟩ := hother x hx
      rw [if_neg hx, chunks_append hne hnone, ih]
      rcases chunks p s with - | ⟨l, ls⟩
      · simp
      · simp

end Pieces

/-! ## Lines -/

/-- A line which may be followed by a line feed: it has none, and its last character is none which
    would belong to the end of the line. -/
def IsLine (l : List Char) : Prop := '\n' ∉ l ∧ l.getLast? ≠ some '\r'

instance : DecidablePred IsLine := fun _ => inferInstanceAs (Decidable (_ ∧ _))

theorem dropLineEnd_append {l : List Char} (h : IsLine l) : dropLineEnd (l ++ ['\n']) = l := by
  rw [dropLineEnd, List.reverse_append, List.reverse_singleton, List.singleton_append]
  rcases hl : l.reverse with - | ⟨c, r⟩
  · simpa using hl
  · obtain rfl : l = r.reverse ++ [c] := by simpa using congrArg List.reverse hl
    have hc : c ≠ '\r' := by simpa using h.2
    split
    · next heq => exact absurd (List.cons.inj (List.cons.inj heq).2).1 hc
    · next heq =>
      rw [← (List.cons.inj heq).2, List.reverse_cons]
    · next hne => exact absurd rfl (hne (c :: r))

/-- Lines which are joined by line feeds, with nothing behind the last line feed, are read back. -/
theorem lines_intercalate {ls : List String} (h : ∀ l ∈ ls.dropLast, IsLine l.toList)
    (hlast : ls.getLast? = some "") : lines ("\n".intercalate ls) = ls.dropLast := by
  induction ls with
  | nil => cases hlast
  | cons l ls ih =>
    rcases ls with - | ⟨k, ls⟩
    · obtain rfl : l = "" := by simpa using hlast
      rfl
    · rw [List.dropLast_cons_cons, List.forall_mem_cons] at h
      have hfeed : ∀ c ∈ l.toList, ¬(c == '\n') := by
        intro c hc
        have hne : c ≠ '\n' := fun heq => h.1.1 (heq ▸ hc)
        simpa using hne
      have hrest := ih h.2 (by simpa [List.getLast?_cons_cons] using hlast)
      rw [lines, String.intercalate_cons_cons, String.toList_append, String.toList_append,
        List.append_assoc]
      change (chunks _ (l.toList ++ '\n' :: ("\n".intercalate (k :: ls)).toList)).map _ = _
      rw [chunks_append_cons hfeed (by decide), List.map_cons, dropLineEnd_append h.1,
        String.ofList_toList, List.dropLast_cons_cons, ← hrest, lines]

/-- A text may be cut where a line ends. -/
theorem lines_append {u : String} (hu : u = "" ∨ ∃ w, u = w ++ "\n") (v : String) :
    lines (u ++ v) = lines u ++ lines v := by
  rcases hu with rfl | ⟨w, rfl⟩
  · rw [String.empty_append]
    rfl
  · have hfeed : (w ++ "\n").toList = w.toList ++ ['\n'] := String.toList_append
    rw [lines, lines, lines, String.toList_append, hfeed, List.append_assoc, List.singleton_append,
      chunks_append_of_cut (by decide), List.map_append]

/-! ## Ends of lines -/

variable {s a b : List Char}

theorem trim_blank_append (ha : ∀ c ∈ a, isBlank c) (s : List Char) : trim (a ++ s) = trim s := by
  rw [trim, trimStart, List.dropWhile_append_of_pos ha]
  rfl

theorem trimEnd_append_of_blank (hb : ∀ c ∈ b, isBlank c) (s : List Char) :
    trimEnd (s ++ b) = trimEnd s := by
  rw [trimEnd, List.reverse_append,
    List.dropWhile_append_of_pos fun c hc => hb c (List.mem_reverse.1 hc)]
  rfl

theorem trim_append_of_blank (hb : ∀ c ∈ b, isBlank c) (s : List Char) :
    trim (s ++ b) = trim s := by
  by_cases h : trimStart s = []
  · -- There is nothing but blanks.
    have hs : ∀ c ∈ s, isBlank c := List.dropWhile_eq_nil_iff.1 h
    have hsb := trim_blank_append (fun c hc => (List.mem_append.1 hc).elim (hs c) (hb c)) []
    have hs' := trim_blank_append hs []
    rw [List.append_nil] at hsb hs'
    rw [hsb, hs']
  · rw [trim, trimStart_append h, trimEnd_append_of_blank hb, trim]

theorem trim_trim (s : List Char) : trim (trim s) = trim s := by
  obtain ⟨a, b, hs, ha, hb⟩ := exists_trim s
  calc trim (trim s)
      _ = trim (trim s ++ b) := (trim_append_of_blank hb (trim s)).symm
      _ = trim (a ++ (trim s ++ b)) := (trim_blank_append ha (trim s ++ b)).symm
      _ = trim s := by rw [← hs]

theorem head?_trim (s : List Char) : (trim s).head? = (trimStart s).head? := by
  rcases h : trimStart s with - | ⟨c, r⟩
  · rw [trim, h]
    rfl
  · obtain ⟨b, hcr, hb⟩ := exists_trimEnd (c :: r)
    have hc : ¬isBlank c := by
      have := stops_dropWhile isBlank s
      rwa [← trimStart, h, stops_cons] at this
    rw [trim, h]
    rcases hr : trimEnd (c :: r) with - | ⟨c', r'⟩
    · rw [hr, List.nil_append] at hcr
      exact absurd (hb c (hcr ▸ List.mem_cons_self)) hc
    · rw [hr] at hcr
      rw [(List.cons.inj hcr).1]
      rfl

theorem isBlankText_iff {s : String} : isBlankText s ↔ trimStart s.toList = [] := by
  rw [isBlankText, List.all_eq_true, trimStart, List.dropWhile_eq_nil_iff]

theorem exists_dropLineEnd (l : List Char) :
    ∃ b, l = dropLineEnd l ++ b ∧ ∀ c ∈ b, isBlank c := by
  rw [dropLineEnd]
  split
  · next r h => exact ⟨['\r', '\n'], by simpa using congrArg List.reverse h, by simp [isBlank]⟩
  · next r h => exact ⟨['\n'], by simpa using congrArg List.reverse h, by simp [isBlank]⟩
  · exact ⟨[], by simp, by simp⟩

theorem trim_dropLineEnd (l : List Char) : trim (dropLineEnd l) = trim l := by
  obtain ⟨b, hl, hb⟩ := exists_dropLineEnd l
  calc trim (dropLineEnd l)
      _ = trim (dropLineEnd l ++ b) := (trim_append_of_blank hb (dropLineEnd l)).symm
      _ = trim l := by rw [← hl]

end Interlock.Text
