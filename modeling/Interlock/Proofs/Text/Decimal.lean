import Interlock.Text.Decimal

/-!
# Reading decimals

A decimal integer is read as the number that its digits write in base ten, with its sign. Every
integer is written by its shortest decimal, and by others: with a plus sign, or with zeros in front.

* `IsDecimal`: a text is a decimal of an integer.
* `integer?_eq_some_iff`, `int32?_eq_some_iff`, `int64?_eq_some_iff`: decimals are read as what they
  write, within the range of the width.
* `int64?_eq_some_iff_of_isDigit`: the same without a sign.
* `isDecimal_repr`: the shortest decimal of an integer.
-/

namespace Interlock.Text

/-- An optional sign and one or more digits write an integer. -/
inductive IsDecimal : List Char → Int → Prop
  | plain {ds : List Char} (hne : ds ≠ []) (hds : ∀ c ∈ ds, c.isDigit) :
    IsDecimal ds (Nat.ofDigitChars 10 ds 0)
  | plus {ds : List Char} (hne : ds ≠ []) (hds : ∀ c ∈ ds, c.isDigit) :
    IsDecimal ('+' :: ds) (Nat.ofDigitChars 10 ds 0)
  | minus {ds : List Char} (hne : ds ≠ []) (hds : ∀ c ∈ ds, c.isDigit) :
    IsDecimal ('-' :: ds) (-(Nat.ofDigitChars 10 ds 0 : Int))

variable {s : List Char} {i : Int}

/-- A decimal is made of digits and signs. -/
theorem IsDecimal.forall_mem (h : IsDecimal s i) : ∀ c ∈ s, c.isDigit ∨ c = '+' ∨ c = '-' := by
  cases h with
  | plain hne hds => exact fun c hc => .inl (hds c hc)
  | plus hne hds => exact List.forall_mem_cons.2 ⟨.inr (.inl rfl), fun c hc => .inl (hds c hc)⟩
  | minus hne hds => exact List.forall_mem_cons.2 ⟨.inr (.inr rfl), fun c hc => .inl (hds c hc)⟩

theorem IsDecimal.ne_nil (h : IsDecimal s i) : s ≠ [] := by
  cases h with
  | plain hne => exact hne
  | plus => simp
  | minus => simp

/-- Without a sign, an integer is not negative. -/
theorem IsDecimal.nonneg_of_isDigit (h : IsDecimal s i) (hs : ∀ c ∈ s, c.isDigit) : 0 ≤ i := by
  cases h with
  | plain => exact Int.natCast_nonneg _
  | plus => exact Int.natCast_nonneg _
  | minus => exact absurd (hs '-' List.mem_cons_self) (by decide)

theorem natural?_eq_some_iff {n : Nat} :
    natural? s = some n ↔ s ≠ [] ∧ (∀ c ∈ s, c.isDigit) ∧ Nat.ofDigitChars 10 s 0 = n := by
  have hvalue : digitsFrom 0 s = Nat.ofDigitChars 10 s 0 := rfl
  rw [natural?, hvalue]
  split
  · next h =>
    refine iff_of_false (by simp) ?_
    rintro ⟨hne, hdigits, -⟩
    simp [hne, List.all_eq_true.2 hdigits] at h
  · next h =>
    obtain ⟨hne, hdigits⟩ : s ≠ [] ∧ ∀ c ∈ s, c.isDigit := by simpa using h
    simp only [Option.some.injEq]
    exact ⟨fun hn => ⟨hne, hdigits, hn⟩, fun hn => hn.2.2⟩

/-- The three cases are told by the first character. A digit is no sign. -/
theorem integer?_eq_some_iff : integer? s = some i ↔ IsDecimal s i := by
  constructor
  · intro h
    unfold integer? at h
    split at h
    all_goals
      obtain ⟨_, hi, rfl⟩ := Option.map_eq_some_iff.1 h
      obtain ⟨n, hn, ⟨⟩⟩ := Option.bind_eq_some_iff.1 hi
      obtain ⟨hne, hdigits, rfl⟩ := natural?_eq_some_iff.1 hn
    · exact .minus hne hdigits
    · exact .plus hne hdigits
    · exact .plain hne hdigits
  · rintro (⟨hne, hdigits⟩ | ⟨hne, hdigits⟩ | ⟨hne, hdigits⟩)
    all_goals have hn := natural?_eq_some_iff.2 ⟨hne, hdigits, rfl⟩
    · unfold integer?
      split
      · exact absurd (hdigits '-' List.mem_cons_self) (by decide)
      · exact absurd (hdigits '+' List.mem_cons_self) (by decide)
      · rw [hn]
        rfl
    · rw [integer?, hn]
      rfl
    · rw [integer?, hn]
      rfl

theorem int32?_eq_some_iff {n : Int32} : int32? s = some n ↔ IsDecimal s n.toInt := by
  rw [← integer?_eq_some_iff, int32?, Option.bind_eq_some_iff]
  constructor
  · rintro ⟨i, hi, h⟩
    split at h
    · next hrange =>
      obtain rfl := Option.some.inj h
      rw [Int32.toInt_minValue, Int32.toInt_maxValue] at hrange
      rwa [Int32.toInt_ofInt_of_le (by omega) (by omega)]
    · cases h
  · intro h
    exact ⟨_, h, by rw [if_pos ⟨n.minValue_le_toInt, n.toInt_le⟩, Int32.ofInt_toInt]⟩

theorem int64?_eq_some_iff {n : Int64} : int64? s = some n ↔ IsDecimal s n.toInt := by
  rw [← integer?_eq_some_iff, int64?, Option.bind_eq_some_iff]
  constructor
  · rintro ⟨i, hi, h⟩
    split at h
    · next hrange =>
      obtain rfl := Option.some.inj h
      rw [Int64.toInt_minValue, Int64.toInt_maxValue] at hrange
      rwa [Int64.toInt_ofInt_of_le (by omega) (by omega)]
    · cases h
  · intro h
    exact ⟨_, h, by rw [if_pos ⟨n.minValue_le_toInt, n.toInt_le⟩, Int64.ofInt_toInt]⟩

/-- Digits write an integer if its value is within the range. -/
theorem int64?_eq_some_iff_of_isDigit {ds : List Char} (hne : ds ≠ [])
    (hds : ∀ c ∈ ds, c.isDigit) {n : Int64} :
    int64? ds = some n ↔ Nat.ofDigitChars 10 ds 0 ≤ 9223372036854775807 ∧
      n = .ofNat (Nat.ofDigitChars 10 ds 0) := by
  have hdecimal (i : Int) : IsDecimal ds i ↔ i = Nat.ofDigitChars 10 ds 0 := by
    constructor
    · rintro (_ | _ | _)
      · rfl
      · exact absurd (hds '+' List.mem_cons_self) (by decide)
      · exact absurd (hds '-' List.mem_cons_self) (by decide)
    · rintro rfl
      exact .plain hne hds
  rw [int64?_eq_some_iff, hdecimal]
  constructor
  · intro h
    have hle := n.toInt_le
    rw [Int64.toInt_maxValue] at hle
    exact ⟨by omega, by rw [← Int64.ofInt_toInt n, h, Int64.ofInt_eq_ofNat]⟩
  · rintro ⟨hle, rfl⟩
    exact Int64.toInt_ofNat_of_lt (by omega)

/-! ## Shortest decimals -/

theorem isDigit_of_mem_toDigits {n : Nat} {c : Char} (h : c ∈ Nat.toDigits 10 n) : c.isDigit :=
  Nat.isDigit_of_mem_toDigits (by decide) (by decide) h

theorem isDecimal_repr (i : Int) : IsDecimal i.repr.toList i := by
  rw [Int.repr_eq_if]
  split
  · next h =>
    rw [Nat.toList_repr]
    have hplain :=
      IsDecimal.plain (Nat.toDigits_ne_nil (n := i.toNat)) fun _ => isDigit_of_mem_toDigits
    rwa [Nat.ofDigitChars_ten_toDigits, Int.toNat_of_nonneg h] at hplain
  · next h =>
    have hminus :=
      IsDecimal.minus (Nat.toDigits_ne_nil (n := (-i).toNat)) fun _ => isDigit_of_mem_toDigits
    rw [Nat.ofDigitChars_ten_toDigits, Int.toNat_of_nonneg (by omega), Int.neg_neg] at hminus
    rw [String.toList_append, Nat.toList_repr]
    exact hminus

/-- The shortest decimal has a sign for negative integers alone. -/
theorem isDigit_of_mem_repr (h : 0 ≤ i) : ∀ c ∈ i.repr.toList, c.isDigit := by
  rw [Int.repr_eq_if, if_pos h, Nat.toList_repr]
  exact fun _ => isDigit_of_mem_toDigits

theorem int64?_repr (n : Int64) : int64? n.toInt.repr.toList = some n :=
  int64?_eq_some_iff.2 (isDecimal_repr n.toInt)

end Interlock.Text
