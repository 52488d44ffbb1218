import Interlock.Proofs.Token.Tiling
import Mathlib.Algebra.Group.Nat.Even
import Mathlib.Data.List.Basic

/-!
# Runs outside of literals

A quote opens a literal, and the next quote closes it, whatever stands between the two. So a place
in a source is outside of literals if the quotes before it are even in number. Every longest run of
letters, digits, underscores and dots outside of literals is a token, and only the shape of the run
says what it is.

* `Token.IsRunIn`: a longest run outside of literals.
* `Token.EndsAtQuote`, `Token.text_cases`: the texts of tokens by their first characters.
* `Token.mem_tokens_of_isRunIn`, `Token.exists_isRunIn_of_mem`: these runs are tokens, and all
  tokens which begin as a run does.
* `Token.Kind.IsOfRun`, `Token.isOfRun_classify`: what the shape of a run says.
* `Token.ofSource_text`: the text of a token is, by itself, a source with that token.
-/

namespace Interlock

open Text

/-- No quote stands among blanks. -/
theorem Cursor.Finds.even_count {c : Cursor} {b t r : List Char} {k : Token.Kind}
    (h : c.Finds b k t r) : Even (b.count '\'') := by
  rw [List.count_eq_zero_of_not_mem fun hmem => Token.ne_quote_of_isBlank (h.isBlank _ hmem) rfl]
  exact ⟨0, rfl⟩

namespace Token

/-! ## What a run is -/

/-- The kind is that of a run, by the shape of it: a word is made of capitals and a name of small
    letters, a reference of two names with a dot between them, and an integer of digits, whose value
    is in the range. Any other run has no meaning. -/
structure Kind.IsOfRun (k : Kind) (run : List Char) : Prop where
  word_iff : ∀ w, k = .word w ↔ w.toList = run ∧ ∀ c ∈ run, c.isUpper
  name_iff : ∀ n, k = .name n ↔ n.toList = run ∧ ∀ c ∈ run, c.isLower
  reference_iff : ∀ n f, k = .reference n f ↔
    run = n.toList ++ '.' :: f.toList ∧ isName n.toList ∧ isName f.toList
  int_iff : ∀ v, k = .int v ↔ (∀ c ∈ run, c.isDigit) ∧
    Nat.ofDigitChars 10 run 0 ≤ 9223372036854775807 ∧ v = .ofNat (Nat.ofDigitChars 10 run 0)
  invalid_iff : (∃ fault, k = .invalid fault) ↔
    ¬(∀ c ∈ run, c.isUpper) ∧ ¬(∀ c ∈ run, c.isLower) ∧
    (¬∃ n f : String, run = n.toList ++ '.' :: f.toList ∧ isName n.toList ∧ isName f.toList) ∧
    ¬((∀ c ∈ run, c.isDigit) ∧ Nat.ofDigitChars 10 run 0 ≤ 9223372036854775807)

section Shapes

variable {run : List Char}

theorem classify_eq_word_iff (hne : run ≠ []) {w : String} :
    classify run = .word w ↔ w.toList = run ∧ ∀ c ∈ run, c.isUpper := by
  constructor
  · intro h
    have hrun := classify_eq_word h
    have hwf := wellFormed_classify hne
    rw [h] at hwf
    exact ⟨hrun.symm, hrun ▸ hwf.2⟩
  · rintro ⟨rfl, hupper⟩
    rw [classify_isUpper hupper, String.ofList_toList]

theorem classify_eq_name_iff (hne : run ≠ []) {n : String} :
    classify run = .name n ↔ n.toList = run ∧ ∀ c ∈ run, c.isLower := by
  constructor
  · intro h
    rcases classify_cases run with ⟨-, hk⟩ | ⟨hn, hk⟩ | ⟨_, _, -, -, hk⟩ | ⟨_, -, -, hk⟩ | ⟨_, hk⟩
    all_goals cases h.symm.trans hk
    rw [String.toList_ofList]
    exact ⟨rfl, (isName_iff.1 hn).2⟩
  · rintro ⟨rfl, hlower⟩
    rw [classify_name (isName_iff.2 ⟨hne, hlower⟩), String.ofList_toList]

theorem classify_eq_reference_iff (hne : run ≠ []) {n f : String} :
    classify run = .reference n f ↔
      run = n.toList ++ '.' :: f.toList ∧ isName n.toList ∧ isName f.toList := by
  constructor
  · intro h
    have hwf := wellFormed_classify hne
    rw [h] at hwf
    exact ⟨classify_eq_reference h, hwf⟩
  · rintro ⟨rfl, hn, hf⟩
    rw [classify_reference hn hf, String.ofList_toList, String.ofList_toList]

theorem classify_eq_int_iff (hne : run ≠ []) {v : Int64} :
    classify run = .int v ↔ (∀ c ∈ run, c.isDigit) ∧
      Nat.ofDigitChars 10 run 0 ≤ 9223372036854775807 ∧
      v = .ofNat (Nat.ofDigitChars 10 run 0) := by
  constructor
  · intro h
    obtain ⟨hdigits, hv⟩ := classify_eq_int h
    exact ⟨hdigits, (int64?_eq_some_iff_of_isDigit hne hdigits).1 hv⟩
  · rintro ⟨hdigits, hv⟩
    exact classify_isDigit hne hdigits ((int64?_eq_some_iff_of_isDigit hne hdigits).2 hv)

/-- A run has the kind of its shape. -/
theorem isOfRun_classify (hne : run ≠ []) : (classify run).IsOfRun run where
  word_iff _ := classify_eq_word_iff hne
  name_iff _ := classify_eq_name_iff hne
  reference_iff _ _ := classify_eq_reference_iff hne
  int_iff _ := classify_eq_int_iff hne
  invalid_iff := by
    constructor
    · rintro ⟨fault, hk⟩
      refine ⟨fun h => ?_, fun h => ?_, ?_, ?_⟩
      · cases hk.symm.trans ((classify_eq_word_iff hne).2 ⟨String.toList_ofList, h⟩)
      · cases hk.symm.trans ((classify_eq_name_iff hne).2 ⟨String.toList_ofList, h⟩)
      · rintro ⟨n, f, h⟩
        cases hk.symm.trans ((classify_eq_reference_iff hne).2 h)
      · rintro ⟨hdigits, hle⟩
        cases hk.symm.trans ((classify_eq_int_iff hne).2 ⟨hdigits, hle, rfl⟩)
    · rintro ⟨hword, hname, hreference, hint⟩
      rcases classify_cases run with ⟨h, -⟩ | ⟨h, -⟩ | ⟨n, f, -, -, h⟩ | ⟨v, hdigits, hv, -⟩ | h
      · exact absurd h hword
      · exact absurd (isName_iff.1 h).2 hname
      · exact absurd ⟨_, _, (classify_eq_reference_iff hne).1 h⟩ hreference
      · exact absurd ⟨hdigits, ((int64?_eq_some_iff_of_isDigit hne hdigits).1 hv).1⟩ hint
      · exact h

end Shapes

/-! ## The texts of tokens -/

/-- The text, which follows an opening quote, goes up to and with the next quote, or to the end of
    the source if there is none. -/
def EndsAtQuote (text rest : List Char) : Prop :=
  ∃ body, '\'' ∉ body ∧ (text = body ++ ['\''] ∨ text = body ∧ rest = [])

theorem EndsAtQuote.append {a text rest : List Char} (ha : '\'' ∉ a)
    (h : EndsAtQuote text rest) : EndsAtQuote (a ++ text) rest := by
  obtain ⟨body, hbody, htext⟩ := h
  refine ⟨a ++ body, by simp [ha, hbody], ?_⟩
  rcases htext with rfl | ⟨rfl, rfl⟩
  · exact .inl (by simp)
  · exact .inr ⟨rfl, rfl⟩

theorem endsAtQuote_throughQuote (s : List Char) :
    EndsAtQuote (throughQuote s).1 (throughQuote s).2 := by
  induction s with
  | nil => exact ⟨[], by simp, .inr ⟨rfl, rfl⟩⟩
  | cons c s ih =>
    rw [throughQuote]
    split
    · next hc => exact ⟨[], by simp, .inl (by simp [hc])⟩
    · next hc => exact EndsAtQuote.append (a := [c]) (by simpa using Ne.symm hc) ih

theorem quote_notMem {run : List Char} (h : ∀ c ∈ run, isStringChar c) : '\'' ∉ run :=
  fun hmem => absurd (h _ hmem) (by decide)

theorem endsAtQuote_scanString (s : List Char) :
    EndsAtQuote (scanString s).2.1 (scanString s).2.2 := by
  rcases string_cases s with hs | ⟨run, rest, rfl, hrun⟩ | ⟨run, c, rest, rfl, hrun, hc, hq⟩
  · rw [scanString_run hs]
    exact ⟨s, quote_notMem hs, .inr ⟨rfl, rfl⟩⟩
  · rw [scanString_quote _ hrun]
    exact ⟨run, quote_notMem hrun, .inl rfl⟩
  · rw [scanString_other _ hrun hc hq]
    exact (endsAtQuote_throughQuote (c :: rest)).append (quote_notMem hrun)

/-- A token is a literal up to its closing quote, a longest run, or one character. -/
theorem text_cases {s t r : List Char} {k : Kind} (h : scan s = (k, t, r)) (hne : s ≠ []) :
    (∃ text, t = '\'' :: text ∧ EndsAtQuote text r) ∨
      (t ≠ [] ∧ (∀ c ∈ t, isBare c) ∧ Stops isBare r ∧ k = classify t) ∨
      ∃ c, t = [c] ∧ c ≠ '\'' ∧ ¬isBare c := by
  obtain ⟨c, s, rfl⟩ := List.exists_cons_of_ne_nil hne
  by_cases hq : c = '\''
  · subst hq
    obtain ⟨rfl, rfl, rfl⟩ : (scanString s).1 = k ∧ '\'' :: (scanString s).2.1 = t ∧
      (scanString s).2.2 = r := by simpa [scan] using h
    exact .inl ⟨_, rfl, endsAtQuote_scanString s⟩
  by_cases hb : isBare c
  · simp only [scan, if_neg hq, hb, if_true, Prod.mk.injEq] at h
    obtain ⟨rfl, rfl, rfl⟩ := h
    refine .inr (.inl ⟨List.cons_ne_nil _ _, ?_, stops_dropWhile isBare s, rfl⟩)
    exact List.forall_mem_cons.2 ⟨hb, fun _ => List.mem_takeWhile_imp⟩
  · rw [scan_other _ hq hb] at h
    cases h
    exact .inr (.inr ⟨c, rfl, hq, hb⟩)

/-- Behind a literal which is closed, or behind any other token, no literal is open. -/
theorem even_count_text {s t r : List Char} {k : Kind} (h : scan s = (k, t, r)) (hr : r ≠ []) :
    Even (t.count '\'') := by
  rcases s with - | ⟨c, s⟩
  · cases h
    exact absurd rfl hr
  rcases text_cases h (List.cons_ne_nil c s) with
    ⟨text, rfl, body, hbody, rfl | ⟨-, rfl⟩⟩ | ⟨-, hbare, -⟩ | ⟨d, rfl, hd, -⟩
  · exact ⟨1, by simp [List.count_eq_zero_of_not_mem hbody]⟩
  · exact absurd rfl hr
  · have hquote : '\'' ∉ t := fun hmem => absurd (hbare _ hmem) (by decide)
    simp [List.count_eq_zero_of_not_mem hquote]
  · simp [hd]

/-- A token behind which a run begins does not end with one. -/
theorem stops_reverse_text {s t r : List Char} {k : Kind} {d : Char} (h : scan s = (k, t, d :: r))
    (hd : isBare d) : Stops isBare t.reverse := by
  rcases s with - | ⟨c, s⟩
  · cases h
  rcases text_cases h (List.cons_ne_nil c s) with
    ⟨text, rfl, body, -, rfl | ⟨-, hr⟩⟩ | ⟨-, -, hstops, -⟩ | ⟨x, rfl, -, hx⟩
  · rw [List.reverse_cons, List.reverse_append]
    exact stops_cons.2 (by decide)
  · cases hr
  · exact absurd hd (stops_cons.1 hstops)
  · exact stops_cons.2 hx

/-- No quote stands in a literal before its end. -/
theorem EndsAtQuote.notMem {a u rest : List Char} (h : EndsAtQuote (a ++ u) rest) (hu : u ≠ []) :
    '\'' ∉ a := by
  obtain ⟨body, hbody, htext⟩ := h
  have hdrop : ∀ c ∈ (a ++ u).dropLast, c ∈ body := by
    rcases htext with htext | ⟨htext, -⟩
    · rw [htext, List.dropLast_concat]
      exact fun _ => id
    · rw [htext]
      exact fun _ hc => List.dropLast_subset body hc
  intro hmem
  refine hbody (hdrop _ ?_)
  rw [List.dropLast_append_of_ne_nil hu]
  exact List.mem_append_left _ hmem

/-! ## Runs in a source -/

/-- A longest run of letters, digits, underscores and dots stands in a source behind its first part.
    An even number of quotes stands there, so that the run is outside of literals. -/
structure IsRunIn (source before run behind : List Char) : Prop where
  eq_append : source = before ++ (run ++ behind)
  ne_nil : run ≠ []
  bare : ∀ c ∈ run, isBare c
  stops_before : Stops isBare before.reverse
  stops_behind : Stops isBare behind
  outside : Even (before.count '\'')

namespace IsRunIn

variable {s before run behind a t r : List Char} {k : Kind}

/-- The source may be cut before the run, outside of literals. -/
theorem of_append (h : IsRunIn (a ++ s) (a ++ before) run behind) (ha : Even (a.count '\'')) :
    IsRunIn s before run behind where
  eq_append := List.append_cancel_left (h.eq_append.trans (List.append_assoc _ _ _))
  ne_nil := h.ne_nil
  bare := h.bare
  stops_before := by
    have hstops := h.stops_before
    rw [List.reverse_append] at hstops
    exact hstops.of_append
  stops_behind := h.stops_behind
  outside := by
    have hout := h.outside
    rw [List.count_append, Nat.even_add] at hout
    exact hout.1 ha

/-- The source may be continued to the front, outside of literals, but not with the run. -/
theorem append (h : IsRunIn s before run behind) (ha : Even (a.count '\''))
    (hstops : before = [] → Stops isBare a.reverse) :
    IsRunIn (a ++ s) (a ++ before) run behind where
  eq_append := by rw [h.eq_append, List.append_assoc]
  ne_nil := h.ne_nil
  bare := h.bare
  stops_before := by
    rw [List.reverse_append]
    exact h.stops_before.append fun hnil => hstops (List.reverse_eq_nil_iff.1 hnil)
  stops_behind := h.stops_behind
  outside := by
    rw [List.count_append, Nat.even_add]
    exact iff_of_true ha h.outside

theorem exists_eq_cons (h : IsRunIn s before run behind) : ∃ d ds, run = d :: ds ∧ isBare d := by
  obtain ⟨d, ds, hrun⟩ := List.exists_cons_of_ne_nil h.ne_nil
  exact ⟨d, ds, hrun, h.bare d (hrun ▸ List.mem_cons_self)⟩

/-- The run stands behind the blanks at the head of a source. -/
theorem exists_eq_append (h : IsRunIn (a ++ s) before run behind) (ha : ∀ c ∈ a, isBlank c) :
    ∃ before', before = a ++ before' := by
  obtain ⟨d, ds, rfl, hd⟩ := h.exists_eq_cons
  rcases List.append_eq_append_iff.1 h.eq_append with ⟨before', hbefore, -⟩ | ⟨u, hu, hrest⟩
  · exact ⟨before', hbefore⟩
  · rcases u with - | ⟨x, u⟩
    · exact ⟨[], by simpa using hu.symm⟩
    · obtain ⟨rfl, -⟩ := List.cons.inj hrest
      exact absurd hd (not_isBare_of_isBlank (ha d (by simp [hu])))

/-- A run which begins in a token is the token. -/
theorem eq_of_scan (h : IsRunIn (t ++ r) before run behind) (hscan : scan (t ++ r) = (k, t, r))
    (hlt : before.length < t.length) :
    before = [] ∧ t = run ∧ r = behind ∧ k = classify run := by
  obtain ⟨d, ds, hrun, hd⟩ := h.exists_eq_cons
  have hne : t ++ r ≠ [] := by
    refine List.append_ne_nil_of_left_ne_nil (List.ne_nil_of_length_pos ?_) r
    omega
  obtain ⟨u, rfl⟩ : before <+: t :=
    List.prefix_of_prefix_length_le ⟨_, h.eq_append.symm⟩ ⟨r, rfl⟩ (Nat.le_of_lt hlt)
  have hrest : u ++ r = run ++ behind :=
    List.append_cancel_left ((List.append_assoc _ _ _).symm.trans h.eq_append)
  obtain ⟨u, rfl⟩ : ∃ u', u = d :: u' := by
    rcases u with - | ⟨x, u⟩
    · simp at hlt
    · rw [hrun] at hrest
      exact ⟨u, by rw [(List.cons.inj hrest).1]⟩
  rcases text_cases hscan hne with ⟨text, htext, hends⟩ | ⟨-, hbare, hstops, hk⟩ | ⟨x, htext, -, hx⟩
  -- In a literal, there would be one quote before the run.
  · rcases before with - | ⟨q, before⟩
    · obtain ⟨rfl, -⟩ := List.cons.inj htext
      exact absurd hd (by decide)
    · obtain ⟨rfl, rfl⟩ := List.cons.inj htext
      have hnone := List.count_eq_zero_of_not_mem (hends.notMem (List.cons_ne_nil d u))
      have hout := h.outside
      rw [List.count_cons_self, hnone] at hout
      exact absurd hout (by decide)
  -- Two longest runs which share a character are the same.
  · obtain rfl : before = [] := by
      by_contra hnil
      obtain ⟨init, x, rfl⟩ := (List.eq_nil_or_concat' before).resolve_left hnil
      have hlast := h.stops_before
      rw [List.reverse_append, List.reverse_singleton] at hlast
      exact stops_cons.1 hlast (hbare x (by simp))
    obtain rfl : d :: u = run := eq_of_append_of_stops hbare hstops h.bare h.stops_behind hrest
    exact ⟨rfl, rfl, List.append_cancel_left hrest, hk⟩
  · rcases before with - | ⟨y, before⟩
    · obtain ⟨rfl, -⟩ := List.cons.inj htext
      exact absurd hd hx
    · simp at htext

end IsRunIn

section Source

variable {c : Cursor} {b t r before run behind : List Char} {k : Kind}

/-- The first token of a source ends before a run, or is the run. -/
theorem IsRunIn.first_cases (h : IsRunIn c.rest before run behind) (hf : c.Finds b k t r) :
    (∃ before', before = b ++ t ++ before' ∧ IsRunIn r before' run behind) ∨
      before = b ∧ t = run ∧ r = behind ∧ k = classify run := by
  rw [hf.rest_eq] at h
  obtain ⟨before, rfl⟩ := h.exists_eq_append hf.isBlank
  have h := h.of_append hf.even_count
  by_cases hlen : t.length ≤ before.length
  · obtain ⟨before, rfl⟩ : t <+: before :=
      List.prefix_of_prefix_length_le ⟨r, rfl⟩ ⟨_, h.eq_append.symm⟩ hlen
    -- Something follows the token, so that its quotes come in pairs.
    have hr : r ≠ [] := by
      rintro rfl
      have heq := h.eq_append
      simp [h.ne_nil] at heq
    exact .inl ⟨before, by simp, h.of_append (even_count_text hf.scan_eq hr)⟩
  · obtain ⟨rfl, ht⟩ := h.eq_of_scan hf.scan_eq (by omega)
    exact .inr ⟨by simp, ht⟩

/-- A longest run outside of literals is a token. -/
theorem mem_tokens_of_isRunIn {c : Cursor} {before run behind : List Char}
    (h : IsRunIn c.rest before run behind) :
    ⟨classify run, .ofList run, ⟨(c.advance before []).offset,
      (c.advance (before ++ run) []).offset, (c.advance before []).column⟩⟩ ∈ c.tokens := by
  rcases c.isBlank_or_finds with hb | ⟨b, k, t, r, hf⟩
  · obtain ⟨d, ds, hrun, hd⟩ := h.exists_eq_cons
    exact absurd hd (not_isBare_of_isBlank (hb d (by simp [h.eq_append, hrun])))
  rw [hf.tokens_eq]
  rcases h.first_cases hf with ⟨before', rfl, h'⟩ | ⟨rfl, rfl, rfl, rfl⟩
  · have hmem := mem_tokens_of_isRunIn (c := c.advance (b ++ t) r) h'
    rw [Cursor.advance_advance, Cursor.advance_advance, ← List.append_assoc] at hmem
    exact List.mem_cons_of_mem _ hmem
  · rw [hf.next_eq]
    exact List.mem_cons_self
termination_by c.rest.length
decreasing_by exact hf.length_lt

/-- A token which begins as a run does is a longest run outside of literals. -/
theorem exists_isRunIn_of_mem {c : Cursor} {t : Token} (ht : t ∈ c.tokens) {d : Char}
    {ds : List Char} (htext : t.text.toList = d :: ds) (hd : isBare d) :
    ∃ before behind, IsRunIn c.rest before t.text.toList behind ∧
      t.span.start = (c.advance before []).offset := by
  rcases c.isBlank_or_finds with hb | ⟨b, k, text, r, hf⟩
  · rw [Cursor.tokens_of_isBlank hb, List.mem_singleton] at ht
    rw [ht] at htext
    cases htext
  have hblanks : Stops isBare b.reverse :=
    stops_isBare_of_isBlank fun x hx => hf.isBlank x (List.mem_reverse.1 hx)
  rw [hf.tokens_eq, List.mem_cons, hf.next_eq] at ht
  rw [hf.rest_eq]
  rcases ht with rfl | ht
  · rw [String.toList_ofList] at htext ⊢
    refine ⟨b, r, ?_, rfl⟩
    rcases text_cases hf.scan_eq (by simp [hf.ne_nil]) with
      ⟨_, hquote, -⟩ | ⟨hne, hbare, hstops, -⟩ | ⟨x, hother, -, hx⟩
    · obtain ⟨rfl, -⟩ := List.cons.inj (htext.symm.trans hquote)
      exact absurd hd (by decide)
    · exact ⟨rfl, hne, hbare, hblanks, hstops, hf.even_count⟩
    · obtain ⟨rfl, -⟩ := List.cons.inj (htext.symm.trans hother)
      exact absurd hd hx
  · obtain ⟨before, behind, h, hstart⟩ := exists_isRunIn_of_mem ht htext hd
    have hr : r = before ++ (t.text.toList ++ behind) := h.eq_append
    have htoken : IsRunIn (text ++ r) (text ++ before) t.text.toList behind := by
      refine h.append (even_count_text hf.scan_eq (by simp [hr, htext])) ?_
      rintro rfl
      rw [List.nil_append, htext] at hr
      have hscan := hf.scan_eq
      rw [hr] at hscan
      exact stops_reverse_text hscan hd
    refine ⟨b ++ (text ++ before), behind, htoken.append hf.even_count fun _ => hblanks, ?_⟩
    rw [hstart, Cursor.advance_advance, List.append_assoc]
termination_by c.rest.length
decreasing_by exact hf.length_lt

end Source

/-! ## The text of a token as a source -/

/-- The text of a token is, by itself, a source with that token. The end of a source has no text. -/
theorem ofSource_text {source : String} {t : Token} (ht : t ∈ ofSource source) :
    ofSource t.text =
      (if t.kind = .eof then [] else [⟨t.kind, t.text, ⟨0, byteSize t.text.toList, 1⟩⟩]) ++
        [endOf t.text] := by
  split
  · next hk =>
    obtain ⟨ts, hts, hne⟩ := (Cursor.ofSource source).exists_tokens_eq
    rw [ofSource, hts, List.mem_append, List.mem_singleton] at ht
    rcases ht with hmem | rfl
    · exact absurd hk (hne t hmem)
    · exact Cursor.tokens_of_isBlank (c := Cursor.ofSource "") (by simp [Cursor.ofSource])
  · next hk =>
    have hf := finds_of_mem_tokens ht hk
    have hrest : ∀ d ∈ ((Cursor.ofSource t.text).advance ([] ++ t.text.toList) []).rest,
      isBlank d := by simp [Cursor.advance]
    rw [ofSource, hf.tokens_eq, hf.next_eq, Cursor.tokens_of_isBlank hrest, String.ofList_toList]
    simp [Cursor.ofSource, Cursor.advance, Cursor.endToken, endOf, Nat.add_comm,
      String.length_toList]

end Token

end Interlock
