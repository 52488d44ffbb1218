import Interlock.Proofs.Text.Run
import Interlock.Token.Scan

/-!
# Tokens are found locally

What the scanner finds at a place hangs on the text of the token alone, and on whether the text
goes on behind it. So a source may be cut before any token, and joined again at any blank, and its
tokens stay what they were. The exception are string literals which lack their closing quote: they
go on into whatever is put behind them (`Kind.isOpen`).

* `scan_append_of_prefix`: a token is found again where only a first part of the rest follows.
  `scan_append_of_not_isOpen`: it is found again where more text follows the rest.
* `Cursor.tokens_append`: the tokens of a text which goes on with a blank.
  `Cursor.tokens_eq_append`: the two texts to either side of a token, with their tokens.
* `Token.kinds`: the kinds of the tokens of a text, wherever it stands in a source.
  `Token.kinds_append`, `Token.kinds_trim`: those of a joined and of a trimmed text.
-/

namespace Interlock

open Text

/-! ## One token -/

namespace Token

theorem isUpper_iff {c : Char} : c.isUpper ↔ 65 ≤ c.toNat ∧ c.toNat ≤ 90 :=
  decide_eq_true_iff

theorem isLower_iff {c : Char} : c.isLower ↔ 97 ≤ c.toNat ∧ c.toNat ≤ 122 :=
  Bool.and_eq_true_iff.trans (and_congr decide_eq_true_iff decide_eq_true_iff)

theorem isDigit_iff {c : Char} : c.isDigit ↔ 48 ≤ c.toNat ∧ c.toNat ≤ 57 :=
  Bool.and_eq_true_iff.trans (and_congr decide_eq_true_iff decide_eq_true_iff)

theorem isBare_iff {c : Char} :
    isBare c ↔ c.isUpper ∨ c.isLower ∨ c.isDigit ∨ c = '_' ∨ c = '.' := by
  have hbare : isBare c = (((c.isUpper || c.isLower) || c.isDigit) || c == '_' || c == '.') := rfl
  simp [hbare, or_assoc]

theorem not_isBare_of_isBlank {c : Char} (h : isBlank c) : ¬isBare c := by
  rw [isBare_iff, isUpper_iff, isLower_iff, isDigit_iff]
  rintro (hc | hc | hc | rfl | rfl)
  · simp [isBlank] at h
    omega
  · simp [isBlank] at h
    omega
  · simp [isBlank] at h
    omega
  · exact absurd h (by decide)
  · exact absurd h (by decide)

theorem ne_quote_of_isBlank {c : Char} (h : isBlank c) : c ≠ '\'' := by
  rintro rfl
  exact absurd h (by decide)

/-- The token is a string literal which may go on into the text behind it: its closing quote is
    missing, or was looked for behind a character which may not stand in a literal. -/
def Kind.isOpen : Kind → Bool
  | .invalid .unterminated => true
  | .invalid (.notAllowed _) => true
  | _ => false

theorem isOpen_classify (run : List Char) : (classify run).isOpen = false := by
  rw [classify]
  repeat' split
  all_goals rfl

theorem scan_run {run rest : List Char} (hne : run ≠ []) (hrun : ∀ c ∈ run, isBare c)
    (hrest : Stops isBare rest) : scan (run ++ rest) = (classify run, run, rest) := by
  obtain ⟨c, cs, rfl⟩ := List.exists_cons_of_ne_nil hne
  rw [List.forall_mem_cons] at hrun
  have hq : c ≠ '\'' := by
    rintro rfl
    exact absurd hrun.1 (by decide)
  simp [scan, hq, hrun.1, takeWhile_append_of_stops hrun.2 hrest,
    dropWhile_append_of_stops hrun.2 hrest]

theorem scan_other {c : Char} (cs : List Char) (hq : c ≠ '\'') (hb : ¬isBare c) :
    scan (c :: cs) = (.invalid (.unexpected c), [c], cs) := by
  simp [scan, hq, hb]

theorem scanString_run {run : List Char} (hrun : ∀ c ∈ run, isStringChar c) :
    scanString run = (.invalid .unterminated, run, []) := by
  have ht := takeWhile_append_of_stops hrun (stops_nil (p := isStringChar))
  have hd := dropWhile_append_of_stops hrun (stops_nil (p := isStringChar))
  rw [List.append_nil] at ht hd
  simp [scanString, ht, hd]

theorem scanString_quote {run : List Char} (rest : List Char) (hrun : ∀ c ∈ run, isStringChar c) :
    scanString (run ++ '\'' :: rest) =
      (if run.isEmpty then .invalid .emptyString else .str (String.ofList run),
        run ++ ['\''], rest) := by
  have hs : Stops isStringChar ('\'' :: rest) := stops_cons.2 (by decide)
  simp [scanString, takeWhile_append_of_stops hrun hs, dropWhile_append_of_stops hrun hs]

theorem scanString_other {run : List Char} {c : Char} (rest : List Char)
    (hrun : ∀ c ∈ run, isStringChar c) (hc : ¬isStringChar c) (hq : c ≠ '\'') :
    scanString (run ++ c :: rest) =
      (.invalid (.notAllowed c), run ++ (throughQuote (c :: rest)).1,
        (throughQuote (c :: rest)).2) := by
  have hs : Stops isStringChar (c :: rest) := stops_cons.2 hc
  simp [scanString, takeWhile_append_of_stops hrun hs, dropWhile_append_of_stops hrun hs, hq]

/-- A text behind an opening quote ends before any quote, is closed by one, or holds a character
    before that which may not stand there. -/
theorem string_cases (s : List Char) :
    (∀ c ∈ s, isStringChar c) ∨
      (∃ run rest, s = run ++ '\'' :: rest ∧ ∀ c ∈ run, isStringChar c) ∨
        ∃ run c rest, s = run ++ c :: rest ∧ (∀ c ∈ run, isStringChar c) ∧ ¬isStringChar c ∧
          c ≠ '\'' := by
  obtain ⟨run, rest, rfl, hrun, hrest⟩ := exists_run isStringChar s
  rcases rest with - | ⟨c, rest⟩
  · left
    simpa using hrun
  · right
    by_cases hq : c = '\''
    · exact .inl ⟨run, rest, by rw [hq], hrun⟩
    · exact .inr ⟨run, c, rest, rfl, hrun, stops_cons.1 hrest, hq⟩

theorem throughQuote_of_prefix {s t u v : List Char} (h : throughQuote s = (t, u ++ v)) :
    throughQuote (t ++ u) = (t, u) := by
  induction s generalizing t with
  | nil =>
    obtain ⟨rfl, hu⟩ : [] = t ∧ [] = u ++ v := by simpa [throughQuote] using h
    obtain ⟨rfl, -⟩ := List.append_eq_nil_iff.1 hu.symm
    rfl
  | cons c cs ih =>
    rw [throughQuote] at h
    split at h
    · next hc =>
      obtain ⟨rfl, rfl⟩ : [c] = t ∧ cs = u ++ v := by simpa using h
      simp [throughQuote, hc]
    · next hc =>
      rcases hq : throughQuote cs with ⟨t', r⟩
      obtain ⟨rfl, rfl⟩ : c :: t' = t ∧ r = u ++ v := by simpa [hq] using h
      simp [throughQuote, hc, ih hq]

theorem throughQuote_head (c : Char) (s : List Char) :
    ∃ t, (throughQuote (c :: s)).1 = c :: t := by
  rw [throughQuote]
  split
  · exact ⟨[], rfl⟩
  · exact ⟨_, rfl⟩

theorem scanString_of_prefix {s t u v : List Char} {k : Kind}
    (h : scanString s = (k, t, u ++ v)) : scanString (t ++ u) = (k, t, u) := by
  rcases string_cases s with hs | ⟨run, rest, rfl, hrun⟩ | ⟨run, c, rest, rfl, hrun, hc, hq⟩
  · rw [scanString_run hs] at h
    obtain ⟨rfl, rfl, hu⟩ : _ = k ∧ s = t ∧ [] = u ++ v := by simpa using h
    obtain ⟨rfl, -⟩ := List.append_eq_nil_iff.1 hu.symm
    rw [List.append_nil, scanString_run hs]
  · rw [scanString_quote _ hrun] at h
    simp only [Prod.mk.injEq] at h
    obtain ⟨rfl, rfl, rfl⟩ := h
    rw [List.append_assoc, List.singleton_append, scanString_quote _ hrun]
  -- Behind a character which may not stand there, the literal goes on up to the next quote, and
  -- it ends there whatever follows.
  · rw [scanString_other _ hrun hc hq] at h
    obtain ⟨rfl, rfl, hr⟩ : _ = k ∧ run ++ (throughQuote (c :: rest)).1 = t ∧
      (throughQuote (c :: rest)).2 = u ++ v := by simpa using h
    have ht : throughQuote ((throughQuote (c :: rest)).1 ++ u) = (_, u) :=
      throughQuote_of_prefix (Prod.ext rfl hr)
    obtain ⟨t, hcons⟩ := throughQuote_head c rest
    rw [hcons] at ht ⊢
    rw [List.append_assoc, List.cons_append, scanString_other _ hrun hc hq, ← List.cons_append, ht]

/-- A token is found again where only a first part of the rest follows it. -/
theorem scan_append_of_prefix {s t u v : List Char} {k : Kind} (h : scan s = (k, t, u ++ v)) :
    scan (t ++ u) = (k, t, u) := by
  -- The first character settles what is scanned: a literal, a run, or that character alone.
  rcases s with - | ⟨c, cs⟩
  · obtain ⟨rfl, rfl, hu⟩ : _ = k ∧ [] = t ∧ [] = u ++ v := by simpa [scan] using h
    obtain ⟨rfl, -⟩ := List.append_eq_nil_iff.1 hu.symm
    rfl
  by_cases hq : c = '\''
  · obtain ⟨rfl, rfl, hr⟩ : (scanString cs).1 = k ∧ c :: (scanString cs).2.1 = t ∧
      (scanString cs).2.2 = u ++ v := by simpa [scan, hq] using h
    have hs := scanString_of_prefix (Prod.ext rfl (Prod.ext rfl hr))
    simp [scan, hq, hs]
  by_cases hb : isBare c
  · obtain ⟨run, rest, hcs, hrun, hrest⟩ := exists_run isBare (c :: cs)
    have hne : run ≠ [] := by
      rintro rfl
      rw [List.nil_append] at hcs
      exact stops_cons.1 (hcs ▸ hrest) hb
    rw [hcs, scan_run hne hrun hrest] at h
    obtain ⟨rfl, rfl, rfl⟩ : classify run = k ∧ run = t ∧ rest = u ++ v := by simpa using h
    exact scan_run hne hrun hrest.of_append
  · rw [scan_other _ hq hb] at h
    obtain ⟨rfl, rfl, rfl⟩ : _ = k ∧ [c] = t ∧ cs = u ++ v := by simpa using h
    exact scan_other _ hq hb

/-- A token which is no open literal is found again where more text is put behind the rest. -/
theorem scan_append_of_not_isOpen {s t r x : List Char} {k : Kind} (h : scan s = (k, t, r))
    (hne : s ≠ []) (hk : k.isOpen = false) (hx : Stops isBare x) :
    scan (s ++ x) = (k, t, r ++ x) := by
  obtain ⟨c, cs, rfl⟩ := List.exists_cons_of_ne_nil hne
  by_cases hq : c = '\''
  · obtain ⟨rfl, rfl, rfl⟩ : (scanString cs).1 = k ∧ c :: (scanString cs).2.1 = t ∧
      (scanString cs).2.2 = r := by simpa [scan, hq] using h
    rcases string_cases cs with hs | ⟨run, rest, rfl, hrun⟩ | ⟨run, d, rest, rfl, hrun, hd, hdq⟩
    · rw [scanString_run hs] at hk
      cases hk
    · simp [scan, hq, scanString_quote _ hrun]
    · rw [scanString_other _ hrun hd hdq] at hk
      cases hk
  by_cases hb : isBare c
  · obtain ⟨run, rest, hcs, hrun, hrest⟩ := exists_run isBare (c :: cs)
    have hne : run ≠ [] := by
      rintro rfl
      rw [List.nil_append] at hcs
      exact stops_cons.1 (hcs ▸ hrest) hb
    rw [hcs, scan_run hne hrun hrest] at h
    obtain ⟨rfl, rfl, rfl⟩ : classify run = k ∧ run = t ∧ rest = r := by simpa using h
    rw [hcs, List.append_assoc]
    exact scan_run hne hrun (hrest.append fun _ => hx)
  · rw [scan_other _ hq hb] at h
    obtain ⟨rfl, rfl, rfl⟩ : _ = k ∧ [c] = t ∧ cs = r := by simpa using h
    exact scan_other _ hq hb

/-- The end is found only where nothing is left. -/
theorem scan_ne_eof (c : Char) (s : List Char) : (scan (c :: s)).1 ≠ .eof := by
  simp only [scan]
  split
  · rcases string_cases s with hs | ⟨run, rest, rfl, hrun⟩ | ⟨run, d, rest, rfl, hrun, hd, hq⟩
    · simp [scanString_run hs]
    · rw [scanString_quote _ hrun]
      rcases run.isEmpty with - | - <;> simp
    · simp [scanString_other _ hrun hd hq]
  · split
    · simp only [classify]
      repeat' split
      all_goals simp
    · simp

/-- Nothing but a literal is open. -/
theorem isOpen_scan_of_ne_quote {c : Char} (s : List Char) (h : c ≠ '\'') :
    (scan (c :: s)).1.isOpen = false := by
  by_cases hb : isBare c
  · simp [scan, h, hb, isOpen_classify]
  · rw [scan_other _ h hb]
    rfl

/-- Blanks behind an open literal do not close it. -/
theorem isOpen_scan_append {s b : List Char} (hb : ∀ c ∈ b, isBlank c)
    (h : (scan s).1.isOpen) : (scan (s ++ b)).1.isOpen := by
  rcases s with - | ⟨c, cs⟩
  · cases h
  by_cases hq : c = '\''
  · subst hq
    change (scanString cs).1.isOpen at h
    change (scanString (cs ++ b)).1.isOpen
    rcases string_cases cs with hs | ⟨run, rest, rfl, hrun⟩ | ⟨run, d, rest, rfl, hrun, hd, hdq⟩
    -- The literal goes on into the blanks, up to the first which may not stand in one. A blank is
    -- no quote, so none of them closes it.
    · obtain ⟨run, rest, rfl, hrun, hrest⟩ := exists_run isStringChar b
      rw [← List.append_assoc]
      have hall : ∀ c ∈ cs ++ run, isStringChar c :=
        fun c hc => (List.mem_append.1 hc).elim (hs c) (hrun c)
      rcases rest with - | ⟨d, rest⟩
      · rw [List.append_nil, scanString_run hall]
        rfl
      · rw [scanString_other _ hall (stops_cons.1 hrest) (ne_quote_of_isBlank (hb d (by simp)))]
        rfl
    · rw [scanString_quote _ hrun] at h
      split at h <;> cases h
    · rw [List.append_assoc, List.cons_append, scanString_other _ hrun hd hdq]
      rfl
  · rw [isOpen_scan_of_ne_quote cs hq] at h
    cases h

end Token

/-! ## The tokens of a text -/

namespace Cursor

theorem advance_advance (c : Cursor) (s t r r' : List Char) :
    (c.advance s r).advance t r' = c.advance (s ++ t) r' := by
  simp [advance, Nat.add_assoc]

/-- Behind some blanks a token stands, and behind it a rest. -/
structure Finds (c : Cursor) (blanks : List Char) (kind : Token.Kind) (text rest : List Char) :
    Prop where
  rest_eq : c.rest = blanks ++ (text ++ rest)
  isBlank : ∀ d ∈ blanks, isBlank d
  stops : Stops Text.isBlank text
  ne_nil : text ≠ []
  scan_eq : Token.scan (text ++ rest) = (kind, text, rest)

theorem finds_of_blanks {c : Cursor} {b s : List Char} (hc : c.rest = b ++ s)
    (hb : ∀ d ∈ b, isBlank d) (hs : Stops Text.isBlank s) (hne : s ≠ []) :
    c.Finds b (Token.scan s).1 (Token.scan s).2.1 (Token.scan s).2.2 := by
  obtain ⟨d, s, rfl⟩ := List.exists_cons_of_ne_nil hne
  have happ := Token.scan_append (d :: s)
  refine ⟨by rw [hc, happ], hb, ?_, Token.scan_text_ne_nil d s, by rw [happ]⟩
  rw [← happ] at hs
  exact hs.of_append

/-- Nothing but blanks is left, or a token. -/
theorem isBlank_or_finds (c : Cursor) :
    (∀ d ∈ c.rest, isBlank d) ∨ ∃ blanks kind text rest, c.Finds blanks kind text rest := by
  obtain ⟨b, s, hc, hb, hs⟩ := exists_run isBlank c.rest
  rcases s with - | ⟨d, s⟩
  · left
    rwa [hc, List.append_nil]
  · exact .inr ⟨b, _, _, _, finds_of_blanks hc hb hs (List.cons_ne_nil _ _)⟩

namespace Finds

variable {c : Cursor} {b t r : List Char} {k : Token.Kind}

theorem length_lt (h : c.Finds b k t r) : r.length < c.rest.length := by
  have := List.length_pos_iff.2 h.ne_nil
  simp only [h.rest_eq, List.length_append]
  omega

theorem skipBlanks_eq (h : c.Finds b k t r) : c.skipBlanks = c.advance b (t ++ r) := by
  have hs : Stops Text.isBlank (t ++ r) := h.stops.append fun ht => absurd ht h.ne_nil
  rw [skipBlanks, h.rest_eq, takeWhile_append_of_stops h.isBlank hs,
    dropWhile_append_of_stops h.isBlank hs]

theorem next_eq (h : c.Finds b k t r) :
    c.next = (⟨k, String.ofList t, ⟨(c.advance b (t ++ r)).offset, (c.advance (b ++ t) r).offset,
      (c.advance b (t ++ r)).column⟩⟩, c.advance (b ++ t) r) := by
  have hrest : (c.advance b (t ++ r)).rest = t ++ r := rfl
  simp only [next, h.skipBlanks_eq, hrest, h.scan_eq, advance_advance]

/-- Behind the token the same end is reached. -/
theorem advance_rest_eq (h : c.Finds b k t r) :
    (c.advance (b ++ t) r).advance (c.advance (b ++ t) r).rest [] = c.advance c.rest [] := by
  rw [advance_advance, h.rest_eq, ← List.append_assoc]
  rfl

theorem tokens_eq (h : c.Finds b k t r) : c.tokens = c.next.1 :: (c.advance (b ++ t) r).tokens := by
  have hne : t ++ r ≠ [] := fun hn => h.ne_nil (List.append_eq_nil_iff.1 hn).1
  rw [tokens, if_neg (by rw [h.skipBlanks_eq]; exact hne), h.next_eq]

/-- The token is found again where more text follows, unless it is an open literal. -/
theorem append (h : c.Finds b k t r) (hk : k.isOpen = false) {x : List Char}
    (hx : Stops Token.isBare x) :
    ({ c with rest := c.rest ++ x } : Cursor).Finds b k t (r ++ x) where
  rest_eq := by simp [h.rest_eq]
  isBlank := h.isBlank
  stops := h.stops
  ne_nil := h.ne_nil
  scan_eq := by
    have hne : t ++ r ≠ [] := fun hn => h.ne_nil (List.append_eq_nil_iff.1 hn).1
    rw [← List.append_assoc]
    exact Token.scan_append_of_not_isOpen h.scan_eq hne hk hx

/-- The token is found again where only a first part of the rest follows. -/
theorem of_append {u v : List Char} (h : c.Finds b k t (u ++ v)) :
    ({ c with rest := b ++ (t ++ u) } : Cursor).Finds b k t u where
  rest_eq := rfl
  isBlank := h.isBlank
  stops := h.stops
  ne_nil := h.ne_nil
  scan_eq := Token.scan_append_of_prefix h.scan_eq

end Finds

/-- The end of a source, at a place behind which nothing is left. -/
def endToken (c : Cursor) : Token := ⟨.eof, "", ⟨c.offset, c.offset, c.column⟩⟩

@[simp] theorem kind_endToken (c : Cursor) : c.endToken.kind = .eof := rfl

theorem skipBlanks_of_isBlank {c : Cursor} (h : ∀ d ∈ c.rest, isBlank d) :
    c.skipBlanks = c.advance c.rest [] := by
  rw [skipBlanks, List.dropWhile_eq_nil_iff.2 h, List.takeWhile_eq_self_iff.2 h]

theorem next_of_isBlank {c : Cursor} (h : ∀ d ∈ c.rest, isBlank d) :
    c.next = ((c.advance c.rest []).endToken, c.advance c.rest []) := by
  simp only [next, skipBlanks_of_isBlank h]
  rfl

/-- Only blanks are left: nothing but the end follows. -/
theorem tokens_of_isBlank {c : Cursor} (h : ∀ d ∈ c.rest, isBlank d) :
    c.tokens = [(c.advance c.rest []).endToken] := by
  have hs : c.skipBlanks.rest = [] := by rw [skipBlanks_of_isBlank h]; rfl
  rw [tokens, if_pos hs, next_of_isBlank h]

theorem tokens_ne_nil (c : Cursor) : c.tokens ≠ [] := by
  rw [tokens]
  split <;> simp

/-- The end is the last token, and no other. -/
theorem exists_tokens_eq (c : Cursor) :
    ∃ ts, c.tokens = ts ++ [(c.advance c.rest []).endToken] ∧ ∀ t ∈ ts, t.kind ≠ .eof := by
  rcases c.isBlank_or_finds with hb | ⟨b, k, t, r, hf⟩
  · exact ⟨[], tokens_of_isBlank hb, by simp⟩
  · obtain ⟨ts, hts, hne⟩ := exists_tokens_eq (c.advance (b ++ t) r)
    rw [hf.advance_rest_eq] at hts
    refine ⟨c.next.1 :: ts, by rw [hf.tokens_eq, hts, List.cons_append], ?_⟩
    refine List.forall_mem_cons.2 ⟨?_, hne⟩
    obtain ⟨d, t, rfl⟩ := List.exists_cons_of_ne_nil hf.ne_nil
    rw [hf.next_eq]
    exact fun heof => Token.scan_ne_eof d (t ++ r) (hf.scan_eq ▸ heof)
termination_by c.rest.length
decreasing_by exact hf.length_lt

/-- Blanks at the head of a text do not matter. -/
theorem tokens_of_blanks {c : Cursor} {b t : List Char} (hc : c.rest = b ++ t)
    (hb : ∀ d ∈ b, isBlank d) : c.tokens = (c.advance b t).tokens := by
  have hskip : c.skipBlanks = (c.advance b t).skipBlanks := by
    have hrest : (c.advance b t).rest = t := rfl
    simp only [skipBlanks, hc, hrest, List.takeWhile_append_of_pos hb,
      List.dropWhile_append_of_pos hb, advance_advance]
  have hnext : c.next = (c.advance b t).next := by simp only [next, hskip]
  have heq (c : Cursor) : c.tokens =
      if c.skipBlanks.rest = [] then [c.next.1] else c.next.1 :: c.next.2.tokens := by rw [tokens]
  rw [heq c, heq (c.advance b t), hskip, hnext]

/-- The tokens of a text, none of which is an open literal, and those of a text put behind it. -/
theorem tokens_append {c : Cursor} {x : List Char} (h : ∀ t ∈ c.tokens, t.kind.isOpen = false)
    (hx : Stops Token.isBare x) :
    ({ c with rest := c.rest ++ x } : Cursor).tokens =
      c.tokens.dropLast ++ (c.advance c.rest x).tokens := by
  rcases c.isBlank_or_finds with hb | ⟨b, k, t, r, hf⟩
  · rw [tokens_of_isBlank hb, List.dropLast_singleton, List.nil_append]
    exact tokens_of_blanks rfl hb
  -- The first token is found again, as it is not open; those behind it are the tokens of a
  -- shorter text, which goes on in the same way.
  · rw [hf.tokens_eq, List.forall_mem_cons, hf.next_eq] at h
    have hf' := hf.append h.1 hx
    have ih := tokens_append h.2 hx
    have hrest : (c.advance (b ++ t) r).rest = r := rfl
    rw [hrest, advance_advance, List.append_assoc, ← hf.rest_eq] at ih
    rw [hf.tokens_eq, List.dropLast_cons_of_ne_nil (tokens_ne_nil _), List.cons_append, ← ih,
      hf'.tokens_eq, hf.next_eq, hf'.next_eq]
    rfl
termination_by c.rest.length
decreasing_by exact hf.length_lt

/-- The texts to either side of a token, with their tokens. -/
theorem tokens_eq_append {c : Cursor} {head tail : List Token} {t : Token}
    (h : c.tokens = head ++ t :: tail) (ht : t.kind ≠ .eof) :
    ∃ pre post e, c.rest = pre ++ (t.text.toList ++ post) ∧
      t.span.start = c.offset + byteSize pre ∧
      ({ c with rest := pre } : Cursor).tokens = head ++ [e] ∧ e.kind = .eof ∧
      (c.advance (pre ++ t.text.toList) post).tokens = tail := by
  rcases c.isBlank_or_finds with hb | ⟨b, k, text, r, hf⟩
  · rw [tokens_of_isBlank hb, eq_comm, List.append_eq_singleton_iff] at h
    rcases h with ⟨-, h⟩ | ⟨-, h⟩
    · cases h
      exact absurd (kind_endToken _) ht
    · cases h
  · rw [hf.tokens_eq] at h
    rcases head with - | ⟨x, head⟩
    -- The token is the first one, and nothing but blanks stands before it.
    · obtain ⟨rfl, rfl⟩ := List.cons.inj h
      have hend := tokens_of_isBlank (c := { c with rest := b }) hf.isBlank
      rw [hf.next_eq, String.toList_ofList]
      exact ⟨b, r, _, hf.rest_eq, rfl, hend, kind_endToken _, rfl⟩
    -- The first token comes earlier. It is found again where the text stops before the token.
    · obtain ⟨rfl, hnext⟩ := List.cons.inj h
      obtain ⟨pre, post, e, hpre, hstart, hhead, hk, htail⟩ := tokens_eq_append hnext ht
      obtain rfl : r = pre ++ (t.text.toList ++ post) := hpre
      have hf' := hf.of_append
      refine ⟨b ++ (text ++ pre), post, e, ?_, ?_, ?_, hk, ?_⟩
      · rw [hf.rest_eq]
        simp
      · rw [hstart]
        simp [advance, Nat.add_assoc]
      · rw [hf'.tokens_eq, hf'.next_eq, hf.next_eq, List.cons_append, ← hhead]
        rfl
      · rw [← htail, advance_advance]
        simp
termination_by c.rest.length
decreasing_by exact hf.length_lt

end Cursor

/-! ## Kinds -/

namespace Token

/-- The kinds of the tokens of a text. -/
def kinds (s : List Char) : List Kind := ({ rest := s } : Cursor).tokens.map Token.kind

theorem map_kind_ofSource (source : String) :
    (ofSource source).map Token.kind = kinds source.toList := rfl

/-- Where a text stands does not matter to the kinds of its tokens. -/
theorem map_kind_tokens (c : Cursor) : c.tokens.map Token.kind = kinds c.rest := by
  rcases c.isBlank_or_finds with hb | ⟨b, k, t, r, hf⟩
  · simp [kinds, Cursor.tokens_of_isBlank hb,
      Cursor.tokens_of_isBlank (c := { rest := c.rest }) hb]
  · have hf' : ({ rest := c.rest } : Cursor).Finds b k t r :=
      ⟨hf.rest_eq, hf.isBlank, hf.stops, hf.ne_nil, hf.scan_eq⟩
    rw [kinds, hf.tokens_eq, hf'.tokens_eq, List.map_cons, List.map_cons, map_kind_tokens,
      map_kind_tokens, hf.next_eq, hf'.next_eq]
    rfl
termination_by c.rest.length
decreasing_by all_goals exact hf.length_lt

theorem kinds_of_isBlank {b : List Char} (h : ∀ c ∈ b, isBlank c) : kinds b = [.eof] := by
  simp [kinds, Cursor.tokens_of_isBlank (c := { rest := b }) h]

theorem kinds_blanks_append {b : List Char} (h : ∀ c ∈ b, isBlank c) (s : List Char) :
    kinds (b ++ s) = kinds s := by
  rw [kinds, Cursor.tokens_of_blanks (c := { rest := b ++ s }) rfl h, map_kind_tokens]
  rfl

theorem kinds_of_finds {c : Cursor} {b t r : List Char} {k : Kind} (h : c.Finds b k t r) :
    kinds c.rest = k :: kinds r := by
  rw [← map_kind_tokens, h.tokens_eq, List.map_cons, map_kind_tokens, h.next_eq]
  rfl

/-- No token of a text is an open literal. -/
def Closed (s : List Char) : Prop := ∀ k ∈ kinds s, k.isOpen = false

theorem kinds_append {s t : List Char} (h : Closed s) (ht : Stops isBare t) :
    kinds (s ++ t) = (kinds s).dropLast ++ kinds t := by
  have := congrArg (List.map Token.kind)
    (Cursor.tokens_append (c := { rest := s }) (by simpa [Closed, kinds] using h) ht)
  rw [List.map_append, map_kind_tokens, map_kind_tokens, List.map_dropLast] at this
  exact this

theorem kinds_eq_dropLast {s : List Char} (h : Closed s) :
    kinds s = (kinds s).dropLast ++ [.eof] := by
  rw [← kinds_of_isBlank (b := []) (by simp), ← kinds_append h stops_nil, List.append_nil]

theorem stops_isBare_of_isBlank {b : List Char} (h : ∀ c ∈ b, isBlank c) : Stops isBare b := by
  cases b with
  | nil => exact stops_nil
  | cons c b => exact stops_cons.2 (not_isBare_of_isBlank (h c List.mem_cons_self))

/-- Taking blanks away from the end of a text leaves no literal open. -/
theorem Closed.of_append_blanks {s b : List Char} (hb : ∀ c ∈ b, isBlank c)
    (h : Closed (s ++ b)) : Closed s := by
  rcases ({ rest := s } : Cursor).isBlank_or_finds with hs | ⟨b', k, t, r, hf⟩
  · simp [Closed, kinds_of_isBlank hs, Kind.isOpen]
  · have hk : k.isOpen = false := by
      -- An open literal would go on into the blanks, and stay open there.
      by_contra hopen
      have hs : s = b' ++ (t ++ r) := hf.rest_eq
      have hf' := Cursor.finds_of_blanks (c := { rest := s ++ b }) (s := t ++ r ++ b)
        (by simp [hs]) hf.isBlank
        ((hf.stops.append fun ht => absurd ht hf.ne_nil).append (by simp [hf.ne_nil]))
        (by simp [hf.ne_nil])
      have := isOpen_scan_append hb (s := t ++ r) (by simpa [hf.scan_eq] using hopen)
      rw [h _ (kinds_of_finds hf' ▸ List.mem_cons_self)] at this
      cases this
    have hf' := hf.append hk (stops_isBare_of_isBlank hb)
    rw [Closed, kinds_of_finds hf', List.forall_mem_cons] at h
    rw [Closed, kinds_of_finds hf, List.forall_mem_cons]
    exact ⟨hk, Closed.of_append_blanks hb h.2⟩
termination_by s.length
decreasing_by exact hf.length_lt

theorem kinds_append_blanks {s b : List Char} (hb : ∀ c ∈ b, isBlank c)
    (h : Closed s ∨ Closed (s ++ b)) : kinds (s ++ b) = kinds s := by
  have hs : Closed s := h.elim id (Closed.of_append_blanks hb)
  rw [kinds_append hs (stops_isBare_of_isBlank hb), kinds_of_isBlank hb, ← kinds_eq_dropLast hs]

/-- Blanks at the two ends of a text do not matter. -/
theorem kinds_trim {s : List Char} (h : Closed s ∨ Closed (trim s)) :
    kinds (trim s) = kinds s := by
  obtain ⟨a, b, hs, ha, hb⟩ := exists_trim s
  have hk : kinds s = kinds (trim s ++ b) := (congrArg kinds hs).trans (kinds_blanks_append ha _)
  rw [hk, kinds_append_blanks hb]
  rwa [Closed, Closed, ← hk, or_comm]

end Token

end Interlock
