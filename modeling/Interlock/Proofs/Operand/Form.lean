import Interlock.Proofs.Action.Literal
import Interlock.Proofs.Clause.Refusal
import Interlock.Proofs.Statement.Grammar

/-!
# The texts of operands

An operand is read of a text as its first token, if no other one follows. So the texts of operands
can be said without tokens: a string between quotes, a number within the range of 64 bits, or a name
and the spelling of a field with a dot between them, with any blanks around these.

* `Operand.IsWrittenAs`: the texts of an operand.
* `Operand.read_eq_ok_iff_kinds`: an operand is read where a text has the token of it and no other.
* `Operand.isWrittenAs_of_finds`, `Operand.IsWrittenAs.exists_kinds`: the tokens which spell an
  operand cover just the texts of it.
* `Operand.read_iff_isWrittenAs`: which texts are read, and how all others are refused.
-/

namespace Interlock

open Text

namespace Token

/-! ## Tokens and their texts -/

/-- The end is found where only blanks are left, and nowhere else. -/
theorem kind_next_eq_eof_iff {c : Cursor} : c.next.1.kind = .eof ↔ ∀ d ∈ c.rest, isBlank d := by
  rcases c.isBlank_or_finds with hb | ⟨b, k, t, r, hf⟩
  · exact iff_of_true (by rw [Cursor.next_of_isBlank hb]; exact Cursor.kind_endToken c) hb
  · obtain ⟨d, t, rfl⟩ := List.exists_cons_of_ne_nil hf.ne_nil
    refine iff_of_false ?_ fun hb => ?_
    · rw [hf.next_eq]
      have hne := scan_ne_eof d (t ++ r)
      rwa [← List.cons_append, hf.scan_eq] at hne
    · exact stops_cons.1 hf.stops (hb d (by simp [hf.rest_eq]))

theorem kinds_eq_eof_iff {s : List Char} : kinds s = [.eof] ↔ ∀ c ∈ s, isBlank c := by
  refine ⟨fun h => ?_, kinds_of_isBlank⟩
  rcases ({ rest := s } : Cursor).isBlank_or_finds with hb | ⟨b, k, t, r, hf⟩
  · exact hb
  · obtain ⟨rfl, hr⟩ := List.cons.inj ((kinds_of_finds hf).symm.trans h)
    rw [kinds, Cursor.tokens] at hr
    split at hr <;> cases hr

theorem isStringChar_iff {c : Char} :
    isStringChar c ↔ c.isAlphanum ∨ c ∈ "_ \t(),.*".toList := by
  simp [isStringChar, or_assoc]

/-- A string covers what is between its quotes, and the quotes. -/
theorem text_of_scan_eq_str {s t r : List Char} {w : String} (h : scan s = (.str w, t, r)) :
    t = '\'' :: (w.toList ++ ['\'']) := by
  rcases s with - | ⟨c, s⟩
  · cases h
  by_cases hq : c = '\''
  · subst hq
    obtain ⟨hk, rfl, -⟩ : (scanString s).1 = .str w ∧ '\'' :: (scanString s).2.1 = t ∧
      (scanString s).2.2 = r := by simpa [scan] using h
    rcases string_cases s with hs | ⟨run, rest, rfl, hrun⟩ | ⟨run, d, rest, rfl, hrun, hd, hq⟩
    · rw [scanString_run hs] at hk
      cases hk
    · rw [scanString_quote _ hrun] at hk ⊢
      simp only at hk
      split at hk <;> cases hk
      rw [String.toList_ofList]
    · rw [scanString_other _ hrun hd hq] at hk
      cases hk
  by_cases hb : isBare c
  · simp only [scan, if_neg hq, hb, if_true, Prod.mk.injEq] at h
    rcases classify_cases (c :: s.takeWhile isBare) with ⟨-, hk⟩ | ⟨-, hk⟩ | ⟨_, _, -, -, hk⟩ |
      ⟨_, -, -, hk⟩ | ⟨_, hk⟩
    all_goals cases h.1.symm.trans hk
  · rw [scan_other _ hq hb] at h
    cases h

end Token

namespace Text

theorem trim_eq_self {s : List Char} (h : ∀ c ∈ s, ¬isBlank c) : trim s = s := by
  have hdrop {s : List Char} (h : ∀ c ∈ s, ¬isBlank c) : s.dropWhile isBlank = s :=
    List.dropWhile_eq_self_iff.2 fun _ => by simpa using h _ (List.getElem_mem _)
  rw [trim, trimStart, hdrop h, trimEnd, hdrop fun c hc => h c (List.mem_reverse.1 hc),
    List.reverse_reverse]

end Text

namespace Operand

/-! ## Operands and their texts -/

/-- The texts of an operand: one or more letters, digits and other characters between quotes; one
    or more digits whose value fits into 64 bits with a sign; or a name of small letters, a dot and
    a spelling of a field. -/
inductive IsWrittenAs : List Char → Operand → Prop
  | string {s : List Char} (hne : s ≠ [])
    (hs : ∀ c ∈ s, c.isAlphanum ∨ c ∈ "_ \t(),.*".toList) :
    IsWrittenAs ('\'' :: (s ++ ['\''])) (.literal (.string (.ofList s)))
  | number {ds : List Char} (hne : ds ≠ []) (hds : ∀ c ∈ ds, c.isDigit)
    (hle : Nat.ofDigitChars 10 ds 0 ≤ 9223372036854775807) :
    IsWrittenAs ds (.literal (.number (.ofNat (Nat.ofDigitChars 10 ds 0))))
  | reference {n : List Char} {spelling : String} {f : Field} (hne : n ≠ [])
    (hn : ∀ c ∈ n, c.isLower) (hf : Field.ofSpelling? spelling = some f) :
    IsWrittenAs (n ++ '.' :: spelling.toList) (.reference (.ofList n) f)

variable {s t : List Char} {o : Operand}

/-- A reference is a run. -/
theorem isBare_of_mem_reference {n : List Char} {spelling : String} {f : Field}
    (hn : ∀ c ∈ n, c.isLower) (hf : Field.ofSpelling? spelling = some f) :
    ∀ c ∈ n ++ '.' :: spelling.toList, Token.isBare c := by
  have hlower := Field.isLower_of_mem_spellings (Field.ofSpelling?_eq_some_iff.1 hf)
  rw [List.forall_mem_append, List.forall_mem_cons]
  exact ⟨fun c hc => Token.isBare_of_isLower (hn c hc), by decide,
    fun c hc => Token.isBare_of_isLower (hlower c hc)⟩

/-- No text of an operand starts or ends with a blank. -/
theorem IsWrittenAs.trim_eq (h : IsWrittenAs t o) : trim t = t := by
  have hbare {s : List Char} (hs : ∀ c ∈ s, Token.isBare c) : trim s = s :=
    trim_eq_self fun c hc hb => Token.not_isBare_of_isBlank hb (hs c hc)
  cases h with
  | string => exact trim_append (a := ['\'']) (b := ['\'']) (by decide) (by decide) _
  | number _ hds => exact hbare fun c hc => Token.isBare_of_isDigit (hds c hc)
  | reference _ hn hf => exact hbare (isBare_of_mem_reference hn hf)

/-- A token which spells an operand covers a text of the operand. -/
theorem isWrittenAs_of_finds {c : Cursor} {b r : List Char} {k : Token.Kind}
    (hf : c.Finds b k t r) (h : Spells k o) : IsWrittenAs t o := by
  have hwf : k.WellFormed := by
    have := Token.wellFormed_scan (t ++ r)
    rwa [hf.scan_eq] at this
  cases h with
  | string w =>
    obtain ⟨hne, hw⟩ := hwf
    have hstring := IsWrittenAs.string (s := w.toList) (by simpa using hne)
      fun c hc => Token.isStringChar_iff.1 (hw c hc)
    rw [String.ofList_toList] at hstring
    rwa [Token.text_of_scan_eq_str hf.scan_eq]
  | number n =>
    obtain ⟨hds, hn⟩ := Token.classify_eq_int (Token.classify_of_scan hf.scan_eq rfl (by simp))
    obtain ⟨hle, rfl⟩ := (int64?_eq_some_iff_of_isDigit hf.ne_nil hds).1 hn
    exact .number hf.ne_nil hds hle
  | @reference n spelling f hfield =>
    obtain ⟨hne, hn⟩ := Token.isName_iff.1 hwf.1
    have hreference := IsWrittenAs.reference hne hn hfield
    rw [String.ofList_toList] at hreference
    rwa [Token.classify_eq_reference (Token.classify_of_scan hf.scan_eq rfl (by simp))]

/-- A text of an operand is one token, which spells the operand. -/
theorem IsWrittenAs.exists_kinds (h : IsWrittenAs t o) :
    ∃ k, Token.kinds t = [k, .eof] ∧ Spells k o := by
  have hrun {run : List Char} (hne : run ≠ []) (hrun : ∀ c ∈ run, Token.isBare c) :
      Token.kinds run = [Token.classify run, .eof] := by
    simpa using Token.kinds_run hne hrun stops_nil
  cases h with
  | @string s hne hs =>
    have hkinds := Token.kinds_literal hne (fun c hc => Token.isStringChar_iff.2 (hs c hc)) []
    rw [Token.kinds_nil] at hkinds
    exact ⟨_, hkinds, .string _⟩
  | @number ds hne hds hle =>
    have hn := (int64?_eq_some_iff_of_isDigit hne hds).2 ⟨hle, rfl⟩
    refine ⟨_, ?_, .number _⟩
    rw [hrun hne fun c hc => Token.isBare_of_isDigit (hds c hc),
      Token.classify_isDigit hne hds hn]
  | @reference n spelling f hne hn hf =>
    have hspelling := Field.isName_of_mem_spellings (Field.ofSpelling?_eq_some_iff.1 hf)
    have hclass := Token.classify_reference (Token.isName_iff.2 ⟨hne, hn⟩) hspelling
    rw [String.ofList_toList] at hclass
    refine ⟨_, ?_, .reference hf⟩
    rw [hrun (by simp) (isBare_of_mem_reference hn hf), hclass]

/-- An operand is read where a text has the token of it, and no other. -/
theorem read_eq_ok_iff_kinds {text : String} :
    read text = .ok o ↔ ∃ k, Token.kinds text.toList = [k, .eof] ∧ Spells k o := by
  have hread : read text = .ok o ↔ (Cursor.ofSource text).next.2.next.1.kind = .eof ∧
      ofKind? (Cursor.ofSource text).next.1.kind = some o := by
    simp only [read]
    split
    · next hend hk => rw [hend, hk, Except.ok.injEq, Option.some.injEq, eq_self, true_and]
    · next h => exact iff_of_false (by simp) fun hkind => h o hkind.1 hkind.2
  rw [hread, ofKind?_eq_some_iff]
  rcases (Cursor.ofSource text).isBlank_or_finds with hb | ⟨b, k, t, r, hf⟩
  · have hkinds : Token.kinds text.toList = [.eof] := Token.kinds_of_isBlank hb
    rw [hkinds, Cursor.next_of_isBlank hb, Cursor.kind_endToken]
    refine iff_of_false ?_ ?_
    · rintro ⟨-, ⟨⟩⟩
    · rintro ⟨k, ⟨⟩, -⟩
  · have hkinds : Token.kinds text.toList = k :: Token.kinds r := Token.kinds_of_finds hf
    rw [hkinds, hf.next_eq, Token.kind_next_eq_eof_iff, ← Token.kinds_eq_eof_iff]
    constructor
    · rintro ⟨hr, hk⟩
      exact ⟨k, congrArg (k :: ·) hr, hk⟩
    · rintro ⟨k', hkinds', hk⟩
      obtain ⟨rfl, hr⟩ := List.cons.inj hkinds'
      exact ⟨hr, hk⟩

/-- The blanks around the text of an operand do not matter. -/
theorem read_eq_ok_iff_isWrittenAs {text : String} :
    read text = .ok o ↔ IsWrittenAs (trim text.toList) o := by
  rw [read_eq_ok_iff_kinds]
  constructor
  · rintro ⟨k, hkinds, hk⟩
    rcases ({ rest := text.toList } : Cursor).isBlank_or_finds with hb | ⟨b, k', t, r, hf⟩
    · cases (Token.kinds_of_isBlank hb).symm.trans hkinds
    · obtain ⟨rfl, hr⟩ := List.cons.inj ((Token.kinds_of_finds hf).symm.trans hkinds)
      have htext : text.toList = b ++ (t ++ r) := hf.rest_eq
      have ht := isWrittenAs_of_finds hf hk
      rwa [htext, trim_blank_append hf.isBlank,
        trim_append_of_blank (Token.kinds_eq_eof_iff.1 hr), ht.trim_eq]
  · intro h
    obtain ⟨k, hkinds, hk⟩ := h.exists_kinds
    have hclosed : Token.Closed (trim text.toList) := by
      rw [Token.Closed, hkinds]
      cases hk <;> simp [Token.Kind.isOpen]
    exact ⟨k, by rw [← Token.kinds_trim (.inr hclosed), hkinds], hk⟩

/-- An operand is read of a text just where the text without the blanks around it is one of the
    texts of the operand. Any other text is refused, and the error tells the whole of it. -/
theorem read_iff_isWrittenAs (text : String) :
    (∀ o, read text = .ok o ↔ IsWrittenAs (trim text.toList) o) ∧
    ∀ err, read text = .error err ↔
      (∀ o, ¬IsWrittenAs (trim text.toList) o) ∧ err = { cause := .invalidOperand text } := by
  refine ⟨fun o => read_eq_ok_iff_isWrittenAs, fun err => ?_⟩
  rw [read_eq_error_iff]
  simp only [ne_eq, read_eq_ok_iff_isWrittenAs]

end Operand

end Interlock
