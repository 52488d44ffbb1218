import Interlock.Text.Blank
import Interlock.Text.Cut
import Mathlib.Data.List.TakeWhile

/-!
# Runs of a text

A text falls into runs: the blanks at its ends, the words between blanks, and the parts before and
behind a mark.

* `Stops`: the rest of a text does not go on with a run. `exists_run`: the run at the head of a
  text.
* `exists_trim`: trimming takes away blanks alone.
* `words_append`, `words_blank_append`: blanks end words, and are no part of one.
  `words_intercalate`: words joined by spaces are read back.
* `cutWhere_append`, `cutWhere_eq_some_iff`, `cutWhere_eq_none_iff`: a text is cut where a character
  stands first. `eq_append_of_cutAt`, `exists_cutAt`, `cutAt_eq_some_iff`: a cut is made at a mark,
  and at the first one.
-/

namespace Interlock

open Text

/-! ## Runs -/

section Runs

variable {α : Type} {p : α → Bool} {s t : List α}

/-- No element with the property `p` stands at the head of a list. -/
def Stops (p : α → Bool) (s : List α) : Prop := ∀ c ∈ s.head?, ¬p c

@[simp] theorem stops_nil : Stops p [] := by simp [Stops]

@[simp] theorem stops_cons {c : α} : Stops p (c :: s) ↔ ¬p c := by simp [Stops]

theorem Stops.append (hs : Stops p s) (ht : s = [] → Stops p t) : Stops p (s ++ t) := by
  cases s with
  | nil => exact ht rfl
  | cons c s => exact hs

theorem Stops.of_append (h : Stops p (s ++ t)) : Stops p s := by
  cases s with
  | nil => exact stops_nil
  | cons c s => exact h

theorem stops_dropWhile (p : α → Bool) (s : List α) : Stops p (s.dropWhile p) := by
  induction s with
  | nil => simp
  | cons c s ih => by_cases h : p c <;> simp [h, ih]

/-- The run at the head of a list, and the rest which does not go on with it. -/
theorem exists_run (p : α → Bool) (s : List α) :
    ∃ run rest, s = run ++ rest ∧ (∀ c ∈ run, p c) ∧ Stops p rest :=
  ⟨s.takeWhile p, s.dropWhile p, List.takeWhile_append_dropWhile.symm,
    fun _ => List.mem_takeWhile_imp, stops_dropWhile p s⟩

theorem takeWhile_append_of_stops (hs : ∀ c ∈ s, p c) (ht : Stops p t) :
    (s ++ t).takeWhile p = s := by
  rw [List.takeWhile_append_of_pos hs]
  cases t with
  | nil => simp
  | cons c t => simpa using ht

theorem dropWhile_append_of_stops (hs : ∀ c ∈ s, p c) (ht : Stops p t) :
    (s ++ t).dropWhile p = t := by
  rw [List.dropWhile_append_of_pos hs]
  cases t with
  | nil => simp
  | cons c t => exact List.dropWhile_cons_of_neg (stops_cons.1 ht)

/-- A list has one run at its head. -/
theorem eq_of_append_of_stops {s' t' : List α} (hs : ∀ c ∈ s, p c) (ht : Stops p t)
    (hs' : ∀ c ∈ s', p c) (ht' : Stops p t') (h : s ++ t = s' ++ t') : s = s' := by
  rw [← takeWhile_append_of_stops hs ht, h, takeWhile_append_of_stops hs' ht']

end Runs

namespace Text

/-! ## Blanks at the ends -/

theorem exists_trimStart (s : List Char) : ∃ a, s = a ++ trimStart s ∧ ∀ c ∈ a, isBlank c :=
  ⟨s.takeWhile isBlank, List.takeWhile_append_dropWhile.symm, fun _ => List.mem_takeWhile_imp⟩

theorem exists_trimEnd (s : List Char) : ∃ b, s = trimEnd s ++ b ∧ ∀ c ∈ b, isBlank c := by
  -- The end of a text is the start of the reversed one.
  obtain ⟨a, hs, ha⟩ := exists_trimStart s.reverse
  refine ⟨a.reverse, ?_, fun c hc => ha c (List.mem_reverse.1 hc)⟩
  rw [trimStart] at hs
  rw [trimEnd, ← List.reverse_append, ← hs, List.reverse_reverse]

/-- Trimming takes blanks away, and nothing else. -/
theorem exists_trim (s : List Char) :
    ∃ a b, s = a ++ (trim s ++ b) ∧ (∀ c ∈ a, isBlank c) ∧ ∀ c ∈ b, isBlank c := by
  obtain ⟨a, hs, ha⟩ := exists_trimStart s
  obtain ⟨b, ht, hb⟩ := exists_trimEnd (trimStart s)
  exact ⟨a, b, by rw [trim, ← ht, ← hs], ha, hb⟩

theorem trimStart_append {a : List Char} (h : trimStart a ≠ []) (s : List Char) :
    trimStart (a ++ s) = trimStart a ++ s := by
  have hne : ¬(a.dropWhile isBlank).isEmpty := by simpa [trimStart] using h
  rw [trimStart, List.dropWhile_append, if_neg hne, trimStart]

theorem trimEnd_append {b : List Char} (h : trimEnd b ≠ []) (s : List Char) :
    trimEnd (s ++ b) = s ++ trimEnd b := by
  have hne : trimStart b.reverse ≠ [] := by simpa [trimStart, trimEnd] using h
  have happ := trimStart_append hne s.reverse
  rw [trimStart, trimStart] at happ
  rw [trimEnd, List.reverse_append, happ, List.reverse_append, List.reverse_reverse, trimEnd]

/-- Only the ends of a text lose blanks. -/
theorem trim_append {a b : List Char} (ha : trimStart a ≠ []) (hb : trimEnd b ≠ [])
    (s : List Char) : trim (a ++ (s ++ b)) = trimStart a ++ (s ++ trimEnd b) := by
  rw [trim, trimStart_append ha, ← List.append_assoc, trimEnd_append hb, List.append_assoc]

/-- A text is not blank if it starts with no blank. -/
theorem isBlankText_eq_false {s : String} (hs : Stops isBlank s.toList) (hne : s.toList ≠ []) :
    isBlankText s = false := by
  obtain ⟨c, cs, hcs⟩ := List.exists_cons_of_ne_nil hne
  rw [hcs, stops_cons] at hs
  rw [isBlankText, List.all_eq_false]
  exact ⟨c, by simp [hcs], hs⟩

/-! ## Words -/

theorem isBlank_space : isBlank ' ' := by decide

theorem wordsFrom_append {w u : List Char} (hu : ∀ c ∈ u, ¬isBlank c) (s : List Char) :
    wordsFrom w (u ++ s) = wordsFrom (w ++ u) s := by
  induction u generalizing w with
  | nil => simp
  | cons c u ih =>
    rw [List.forall_mem_cons] at hu
    rw [List.cons_append, wordsFrom, if_neg hu.1, ih hu.2, List.append_assoc, List.singleton_append]

theorem words_blank_append {a : List Char} (ha : ∀ c ∈ a, isBlank c) (s : List Char) :
    words (a ++ s) = words s := by
  induction a with
  | nil => rfl
  | cons c a ih =>
    rw [List.forall_mem_cons] at ha
    rw [List.cons_append, words, wordsFrom, if_pos ha.1]
    exact ih ha.2

/-- A word ends at a blank, or with the text. -/
theorem words_append {w s : List Char} (hne : w ≠ []) (hw : ∀ c ∈ w, ¬isBlank c)
    (hs : Stops (!isBlank ·) s) : words (w ++ s) = w :: words s := by
  rw [words, wordsFrom_append hw, words]
  rcases s with - | ⟨b, s⟩
  · simp [wordsFrom, hne]
  · have hb : isBlank b := by simpa using hs
    simp [wordsFrom, hb, hne]

/-- Words with single spaces between them are read back. -/
theorem words_intercalate {ws : List String}
    (h : ∀ w ∈ ws, w ≠ "" ∧ ∀ c ∈ w.toList, ¬isBlank c) :
    (words (" ".intercalate ws).toList).map String.ofList = ws := by
  induction ws with
  | nil => rfl
  | cons w ws ih =>
    -- No space stands behind the last word.
    rw [List.forall_mem_cons] at h
    have hne : w.toList ≠ [] := by simpa using h.1.1
    rcases ws with - | ⟨v, ws⟩
    · have hw := words_append hne h.1.2 stops_nil
      rw [List.append_nil] at hw
      rw [String.intercalate_singleton, hw, List.map_cons, String.ofList_toList]
      rfl
    · have hspace : ∀ c ∈ " ".toList, isBlank c := List.forall_mem_singleton.2 isBlank_space
      have hstops : Stops (!isBlank ·) (" ".toList ++ (" ".intercalate (v :: ws)).toList) :=
        stops_cons.2 (by decide)
      rw [String.intercalate_cons_cons, String.toList_append, String.toList_append,
        List.append_assoc, words_append hne h.1.2 hstops, words_blank_append hspace,
        List.map_cons, ih h.2, String.ofList_toList]

/-! ## Cuts -/

theorem cutWhere_append {a : List Char} {c : Char} (hc : c ∉ a) (b : List Char) :
    cutWhere (· == c) (a ++ c :: b) = some (a, b) := by
  induction a with
  | nil => simp [cutWhere]
  | cons x a ih =>
    rw [List.mem_cons, not_or] at hc
    simp [cutWhere, Ne.symm hc.1, ih hc.2]

theorem cutWhere_eq_some_iff {s a b : List Char} {c : Char} :
    cutWhere (· == c) s = some (a, b) ↔ c ∉ a ∧ s = a ++ c :: b := by
  constructor
  · intro h
    obtain ⟨x, hx, ha, rfl⟩ := eq_append_of_cutWhere h
    obtain rfl : x = c := by simpa using hx
    exact ⟨fun hmem => ha x hmem (by simp), rfl⟩
  · rintro ⟨hc, rfl⟩
    exact cutWhere_append hc b

theorem cutWhere_eq_none_iff {s : List Char} {c : Char} :
    cutWhere (· == c) s = none ↔ c ∉ s := by
  induction s with
  | nil => simp [cutWhere]
  | cons x s ih => by_cases h : x = c <;> simp [cutWhere, h, Ne.symm, ih]

theorem eq_append_of_cutAt {mark s a b : List Char} (h : cutAt mark s = some (a, b)) :
    s = a ++ (mark ++ b) := by
  induction s generalizing a with
  | nil =>
    rw [cutAt] at h
    split at h
    · next hm =>
      cases h
      simpa using hm
    · cases h
  | cons c s ih =>
    rw [cutAt] at h
    split at h
    · next hm =>
      obtain ⟨rfl, rfl⟩ : [] = a ∧ (c :: s).drop mark.length = b := by simpa using h
      obtain ⟨t, ht⟩ := List.isPrefixOf_iff_prefix.1 hm
      simp [← ht]
    · obtain ⟨⟨a', b'⟩, h', he⟩ := Option.map_eq_some_iff.1 h
      obtain ⟨rfl, rfl⟩ : c :: a' = a ∧ b' = b := by simpa using he
      rw [ih h', List.cons_append]

/-- Where the mark stands, a cut is made, there or earlier. -/
theorem exists_cutAt {mark s a b : List Char} (hs : s = a ++ (mark ++ b)) :
    ∃ a' b', cutAt mark s = some (a', b') ∧ a'.length ≤ a.length := by
  induction s generalizing a with
  | nil =>
    obtain ⟨rfl, hm, rfl⟩ : a = [] ∧ mark = [] ∧ b = [] := by simpa using hs.symm
    exact ⟨[], [], by simp [cutAt, hm], Nat.le_refl _⟩
  | cons c s ih =>
    -- A mark at the head ends the search. Without one, the given mark stands in the tail, one
    -- place closer.
    rw [cutAt]
    split
    · exact ⟨[], _, rfl, Nat.zero_le _⟩
    · next hm =>
      rcases a with - | ⟨d, a⟩
      · exact absurd (List.isPrefixOf_iff_prefix.2 ⟨b, hs.symm⟩) hm
      · obtain ⟨a', b', h', hle⟩ := ih (List.cons.inj hs).2
        exact ⟨c :: a', b', by rw [h']; rfl, Nat.succ_le_succ hle⟩

/-- A cut is made at the first place where the mark stands. -/
theorem cutAt_eq_some_iff {mark s a b : List Char} : cutAt mark s = some (a, b) ↔
    s = a ++ (mark ++ b) ∧ ∀ a' b', s = a' ++ (mark ++ b') → a.length ≤ a'.length := by
  constructor
  · intro h
    refine ⟨eq_append_of_cutAt h, fun a' b' hs => ?_⟩
    obtain ⟨a'', b'', h', hle⟩ := exists_cutAt hs
    cases h.symm.trans h'
    exact hle
  · rintro ⟨hs, hfirst⟩
    obtain ⟨a', b', h, hle⟩ := exists_cutAt hs
    have hs' := eq_append_of_cutAt h
    have hlength : a'.length = a.length := Nat.le_antisymm hle (hfirst a' b' hs')
    obtain ⟨rfl, hrest⟩ := List.append_inj (hs'.symm.trans hs) hlength
    rw [h, List.append_cancel_left hrest]

end Text

end Interlock
