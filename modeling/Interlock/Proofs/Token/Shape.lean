import Interlock.Proofs.Text.Decimal
import Interlock.Proofs.Token.Locality

/-!
# The shapes of tokens

What a kind of token says about its text, and which texts have a kind: words are runs of capitals,
names are runs of small letters, a reference is two names with a dot between them, an integer is a
run of digits, and a literal stands between quotes.

* `Kind.WellFormed`: what every token of a text satisfies (`wellFormed_of_mem_kinds`).
* `kinds_run`, `kinds_literal`, `kinds_other`, `kinds_space`: the kinds of a text by what stands at
  its head. `classify_isUpper`, `classify_name`, `classify_reference`, `classify_isDigit`: those of
  runs.
* `closed_of_isPlain`: a text without literals leaves none open.
* `finds_of_mem_tokens`: the text of a token is, by itself, a text with that one token.
  `text_of_word`, `text_of_reference`: the texts of words and references.
-/

namespace Interlock

open Text

namespace Token

/-! ## Runs by their shape -/

theorem isBare_of_isUpper {c : Char} (h : c.isUpper) : isBare c :=
  isBare_iff.2 (.inl h)

theorem isBare_of_isLower {c : Char} (h : c.isLower) : isBare c :=
  isBare_iff.2 (.inr (.inl h))

theorem isBare_of_isDigit {c : Char} (h : c.isDigit) : isBare c :=
  isBare_iff.2 (.inr (.inr (.inl h)))

theorem not_isUpper_of_isLower {c : Char} (h : c.isLower) : ¬c.isUpper := by
  rw [isLower_iff] at h
  rw [isUpper_iff]
  omega

theorem not_isUpper_of_isDigit {c : Char} (h : c.isDigit) : ¬c.isUpper := by
  rw [isDigit_iff] at h
  rw [isUpper_iff]
  omega

theorem not_isLower_of_isDigit {c : Char} (h : c.isDigit) : ¬c.isLower := by
  rw [isDigit_iff] at h
  rw [isLower_iff]
  omega

theorem isName_iff {s : List Char} : isName s ↔ s ≠ [] ∧ ∀ c ∈ s, c.isLower := by
  simp [isName]

/-- What a kind says about the text of a token. -/
def Kind.WellFormed : Kind → Prop
  | .word w => w ≠ "" ∧ ∀ c ∈ w.toList, c.isUpper
  | .name n => isName n.toList
  | .reference n f => isName n.toList ∧ isName f.toList
  | .int n => 0 ≤ n.toInt
  | .str s => s ≠ "" ∧ ∀ c ∈ s.toList, isStringChar c
  | .invalid _ | .eof => True

instance : DecidablePred Kind.WellFormed
  | .word w => decidable_of_iff (w ≠ "" ∧ w.toList.all Char.isUpper) (by simp [Kind.WellFormed])
  | .name n => inferInstanceAs (Decidable (isName n.toList))
  | .reference n f => inferInstanceAs (Decidable (isName n.toList ∧ isName f.toList))
  | .int n => inferInstanceAs (Decidable (0 ≤ n.toInt))
  | .str s => decidable_of_iff (s ≠ "" ∧ s.toList.all isStringChar) (by simp [Kind.WellFormed])
  | .invalid _ | .eof => inferInstanceAs (Decidable True)

/-- A run is a word, a name, a reference, an integer, or nothing. -/
theorem classify_cases (run : List Char) :
    (∀ c ∈ run, c.isUpper) ∧ classify run = .word (String.ofList run) ∨
      isName run ∧ classify run = .name (String.ofList run) ∨
      (∃ n f, isName n ∧ isName f ∧
        classify run = .reference (String.ofList n) (String.ofList f)) ∨
      (∃ n, (∀ c ∈ run, c.isDigit) ∧ int64? run = some n ∧ classify run = .int n) ∨
      ∃ fault, classify run = .invalid fault := by
  rw [classify]
  simp only
  repeat' split
  case h_1.isTrue name field _ hnf => exact .inr (.inr (.inl ⟨name, field, by simpa using hnf⟩))
  all_goals simp_all

theorem wellFormed_classify {run : List Char} (hne : run ≠ []) : (classify run).WellFormed := by
  rcases classify_cases run with ⟨hu, hk⟩ | ⟨hn, hk⟩ | ⟨n, f, hn, hf, hk⟩ | ⟨n, hd, hn, hk⟩ |
    ⟨fault, hk⟩
  all_goals rw [hk]
  · simpa [Kind.WellFormed, hne] using hu
  · simpa [Kind.WellFormed] using hn
  · simpa [Kind.WellFormed] using ⟨hn, hf⟩
  · exact (int64?_eq_some_iff.1 hn).nonneg_of_isDigit hd
  · trivial

theorem wellFormed_scan (s : List Char) : (scan s).1.WellFormed := by
  rcases s with - | ⟨c, s⟩
  · trivial
  rw [scan]
  simp only
  split
  · rcases string_cases s with hs | ⟨run, rest, rfl, hrun⟩ | ⟨run, d, rest, rfl, hrun, hd, hq⟩
    · rw [scanString_run hs]
      trivial
    · rw [scanString_quote _ hrun]
      rcases hr : run.isEmpty with - | -
      · exact ⟨by simpa using hr, by simpa using hrun⟩
      · trivial
    · rw [scanString_other _ hrun hd hq]
      trivial
  · split
    · exact wellFormed_classify (List.cons_ne_nil _ _)
    · trivial

theorem wellFormed_of_mem_kinds {s : List Char} {k : Kind} (h : k ∈ kinds s) : k.WellFormed := by
  rcases ({ rest := s } : Cursor).isBlank_or_finds with hs | ⟨b, k', t, r, hf⟩
  · rw [kinds_of_isBlank hs, List.mem_singleton] at h
    rw [h]
    trivial
  · rw [kinds_of_finds hf, List.mem_cons] at h
    rcases h with rfl | h
    · have := wellFormed_scan (t ++ r)
      rwa [hf.scan_eq] at this
    · exact wellFormed_of_mem_kinds h
termination_by s.length
decreasing_by exact hf.length_lt

theorem classify_isUpper {run : List Char} (h : ∀ c ∈ run, c.isUpper) :
    classify run = .word (String.ofList run) := by
  rw [classify, if_pos (List.all_eq_true.2 h)]

theorem not_all_isUpper {c : Char} {s : List Char} (h : ¬c.isUpper) :
    ¬(c :: s).all Char.isUpper := by
  simp [h]

theorem classify_name {run : List Char} (h : isName run) :
    classify run = .name (String.ofList run) := by
  obtain ⟨hne, hl⟩ := isName_iff.1 h
  obtain ⟨c, s, rfl⟩ := List.exists_cons_of_ne_nil hne
  have hupper := not_all_isUpper (s := s) (not_isUpper_of_isLower (hl c List.mem_cons_self))
  rw [classify, if_neg hupper, if_pos h]

theorem classify_reference {n f : List Char} (hn : isName n) (hf : isName f) :
    classify (n ++ '.' :: f) = .reference (String.ofList n) (String.ofList f) := by
  obtain ⟨hne, hl⟩ := isName_iff.1 hn
  have hdot : '.' ∉ n := fun hmem => absurd (hl '.' hmem) (by decide)
  have hname : ¬isName (n ++ '.' :: f) := fun h =>
    absurd ((isName_iff.1 h).2 '.' (by simp)) (by decide)
  have hupper : ¬(n ++ '.' :: f).all Char.isUpper := fun h =>
    absurd (List.all_eq_true.1 h '.' (by simp)) (by decide)
  rw [classify, if_neg hupper, if_neg hname]
  simp [cutWhere_append hdot, hn, hf]

theorem classify_isDigit {run : List Char} (hne : run ≠ []) (hd : ∀ c ∈ run, c.isDigit) {n : Int64}
    (hn : int64? run = some n) : classify run = .int n := by
  obtain ⟨c, s, rfl⟩ := List.exists_cons_of_ne_nil hne
  have hc := hd c List.mem_cons_self
  have hname : ¬isName (c :: s) := fun hn =>
    not_isLower_of_isDigit hc ((isName_iff.1 hn).2 c List.mem_cons_self)
  have hcut : cutWhere (· == '.') (c :: s) = none :=
    cutWhere_eq_none_iff.2 fun hmem => absurd (hd '.' hmem) (by decide)
  rw [classify, if_neg (not_all_isUpper (not_isUpper_of_isDigit hc)), if_neg hname]
  simp only [hcut, List.all_eq_true.2 hd, hn, if_true]

/-! ## The head of a text -/

theorem kinds_run {run rest : List Char} (hne : run ≠ []) (hrun : ∀ c ∈ run, isBare c)
    (hrest : Stops isBare rest) : kinds (run ++ rest) = classify run :: kinds rest := by
  have hb : Stops isBlank run := by
    obtain ⟨c, s, rfl⟩ := List.exists_cons_of_ne_nil hne
    exact stops_cons.2 fun h => not_isBare_of_isBlank h (hrun c List.mem_cons_self)
  exact kinds_of_finds (c := { rest := run ++ rest }) (b := [])
    ⟨rfl, by simp, hb, hne, scan_run hne hrun hrest⟩

theorem kinds_literal {run : List Char} (hne : run ≠ []) (hrun : ∀ c ∈ run, isStringChar c)
    (rest : List Char) :
    kinds ('\'' :: (run ++ '\'' :: rest)) = .str (String.ofList run) :: kinds rest := by
  have hscan : scan ('\'' :: (run ++ '\'' :: rest)) =
      (.str (String.ofList run), '\'' :: (run ++ ['\'']), rest) := by
    simp [scan, scanString_quote rest hrun, hne]
  exact kinds_of_finds (c := { rest := '\'' :: (run ++ '\'' :: rest) }) (b := [])
    (t := '\'' :: (run ++ ['\'']))
    ⟨by simp, by simp, stops_cons.2 (by decide), List.cons_ne_nil _ _, by simpa using hscan⟩

theorem kinds_other {c : Char} (s : List Char) (hb : ¬isBlank c) (hq : c ≠ '\'')
    (hbare : ¬isBare c) : kinds (c :: s) = .invalid (.unexpected c) :: kinds s :=
  kinds_of_finds (c := { rest := c :: s }) (b := []) (t := [c])
    ⟨rfl, by simp, stops_cons.2 hb, List.cons_ne_nil _ _, scan_other s hq hbare⟩

theorem kinds_space (s : List Char) : kinds (' ' :: s) = kinds s :=
  kinds_blanks_append (List.forall_mem_singleton.2 isBlank_space) s

@[simp] theorem kinds_nil : kinds [] = [.eof] := kinds_of_isBlank (by simp)

/-! ## Plain tokens -/

/-- The token is no literal and no piece without meaning. -/
def Kind.isPlain : Kind → Bool
  | .str _ | .invalid _ => false
  | _ => true

theorem Kind.isOpen_of_isPlain {k : Kind} (h : k.isPlain) : k.isOpen = false := by
  cases k with
  | invalid fault => cases h
  | _ => rfl

theorem not_isPlain_scan_quote (s : List Char) : (scan ('\'' :: s)).1.isPlain = false := by
  change (scanString s).1.isPlain = false
  rcases string_cases s with hs | ⟨run, rest, rfl, hrun⟩ | ⟨run, d, rest, rfl, hrun, hd, hq⟩
  · rw [scanString_run hs]
    rfl
  · rw [scanString_quote _ hrun]
    rcases run.isEmpty with - | - <;> rfl
  · rw [scanString_other _ hrun hd hq]
    rfl

/-- No literal is open at the end of a first part of a text, if the text has none at all. -/
theorem closed_of_isPlain {s x : List Char} (hx : Stops isBare x)
    (h : ∀ k ∈ kinds (s ++ x), k.isPlain) : Closed s := by
  rcases ({ rest := s } : Cursor).isBlank_or_finds with hs | ⟨b, k, t, r, hf⟩
  · simp [Closed, kinds_of_isBlank hs, Kind.isOpen]
  · obtain ⟨c, t, rfl⟩ := List.exists_cons_of_ne_nil hf.ne_nil
    have hs : s = b ++ (c :: t ++ r) := hf.rest_eq
    have hc : c ≠ '\'' := by
      -- A quote would start a literal in the longer text as well, whether it is closed or not.
      rintro rfl
      have hf' := Cursor.finds_of_blanks (c := { rest := s ++ x }) (s := '\'' :: (t ++ r ++ x))
        (by simp [hs]) hf.isBlank (stops_cons.2 (by decide)) (List.cons_ne_nil _ _)
      have := h _ (kinds_of_finds hf' ▸ List.mem_cons_self)
      rw [not_isPlain_scan_quote] at this
      cases this
    have hk : k.isOpen = false := by
      have := isOpen_scan_of_ne_quote (t ++ r) hc
      rwa [← List.cons_append, hf.scan_eq] at this
    rw [kinds_of_finds (hf.append hk hx), List.forall_mem_cons] at h
    rw [Closed, kinds_of_finds hf, List.forall_mem_cons]
    exact ⟨hk, closed_of_isPlain hx h.2⟩
termination_by s.length
decreasing_by exact hf.length_lt

/-! ## The text of a token -/

/-- The text of a token is, by itself, a text with that one token. -/
theorem finds_of_mem_tokens {c : Cursor} {t : Token} (h : t ∈ c.tokens) (ht : t.kind ≠ .eof) :
    (Cursor.ofSource t.text).Finds [] t.kind t.text.toList [] := by
  rcases c.isBlank_or_finds with hb | ⟨b, k, text, r, hf⟩
  · rw [Cursor.tokens_of_isBlank hb, List.mem_singleton] at h
    exact absurd (h ▸ Cursor.kind_endToken _) ht
  · rw [hf.tokens_eq, List.mem_cons] at h
    rcases h with rfl | h
    -- What follows the first token may be left out, down to nothing.
    · rw [hf.next_eq]
      have := (show c.Finds b k text ([] ++ r) from hf).of_append
      exact ⟨by simp [Cursor.ofSource], by simp, by simpa using hf.stops, by simpa using hf.ne_nil,
        by simpa using this.scan_eq⟩
    · exact finds_of_mem_tokens h ht
termination_by c.rest.length
decreasing_by exact hf.length_lt

theorem classify_eq_word {run : List Char} {w : String} (h : classify run = .word w) :
    run = w.toList := by
  simp only [classify] at h
  repeat' split at h
  all_goals cases h
  rw [String.toList_ofList]

theorem classify_eq_reference {run : List Char} {n f : String}
    (h : classify run = .reference n f) : run = n.toList ++ '.' :: f.toList := by
  simp only [classify] at h
  repeat' split at h
  all_goals cases h
  next hcut _ =>
  obtain ⟨-, rfl⟩ := cutWhere_eq_some_iff.1 hcut
  simp

theorem classify_eq_int {run : List Char} {n : Int64} (h : classify run = .int n) :
    (∀ c ∈ run, c.isDigit) ∧ int64? run = some n := by
  rcases classify_cases run with ⟨-, hk⟩ | ⟨-, hk⟩ | ⟨_, _, -, -, hk⟩ | ⟨m, hd, hm, hk⟩ | ⟨_, hk⟩
  all_goals cases h.symm.trans hk
  exact ⟨hd, hm⟩

/-- A token which is neither a literal nor a fault is a run, and is what the run is by its shape. -/
theorem classify_of_scan {s t r : List Char} {k : Kind} (h : scan s = (k, t, r))
    (hk : k.isPlain) (hne : k ≠ .eof) : classify t = k := by
  rcases s with - | ⟨c, s⟩
  · cases h
    exact absurd rfl hne
  by_cases hq : c = '\''
  · subst hq
    have := not_isPlain_scan_quote s
    rw [h, hk] at this
    cases this
  by_cases hb : isBare c
  · simp only [scan, if_neg hq, hb, if_true, Prod.mk.injEq] at h
    exact h.2.1 ▸ h.1
  · rw [scan_other _ hq hb] at h
    cases h
    cases hk

/-- A word covers just its letters. -/
theorem text_of_word {c : Cursor} {t : Token} (h : t ∈ c.tokens) {w : String}
    (ht : t.kind = .word w) : t.text = w := by
  have hf := finds_of_mem_tokens h (by simp [ht])
  exact String.toList_inj.1 (classify_eq_word (classify_of_scan (ht ▸ hf.scan_eq) rfl (by simp)))

/-- A reference covers its two names, with the dot between them. -/
theorem text_of_reference {c : Cursor} {t : Token} (h : t ∈ c.tokens) {n f : String}
    (ht : t.kind = .reference n f) : t.text = n ++ "." ++ f := by
  have hf := finds_of_mem_tokens h (by simp [ht])
  have htext := classify_eq_reference (classify_of_scan (ht ▸ hf.scan_eq) rfl (by simp))
  rw [← String.toList_inj, htext, String.toList_append, String.toList_append, List.append_assoc]
  rfl

end Token

end Interlock
