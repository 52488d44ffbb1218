import Interlock.Proofs.Token.Shape

/-!
# Tokens tile their source

No character of a source is lost, and none is taken twice: between the tokens stand blanks, and
together with the texts of the tokens these make up the source. The span of a token says where its
text stands, in bytes and in characters.

* `Token.Tiles`: the tokens cover what is left of a source. `Tiles.exists_eq_append`,
  `Tiles.pairwise`, `Tiles.exists_gaps`: places of tokens, their order, and what is between them.
* `Token.column_ne_of_ofSource`: a column belongs to one token. `Token.column_lt_of_ofSource`: it is
  a number of 32 bits.
* `Cursor.tiles_tokens`: the tokens behind a place cover what is behind it.
* `Cursor.take_eq`: asked again and again, a cursor gives its tokens, and then the end.
* `Token.isTiling_ofSource`: all this for the tokens of a source.
-/

namespace Interlock

open Text

/-! ## Parts of a text -/

theorem Text.slice_append (a b c : List Char) :
    slice (byteSize a) (byteSize (a ++ b)) (a ++ (b ++ c)) = some b := by
  have hsize : byteSize (a ++ b) - byteSize a = byteSize b := by
    rw [byteSize_append, Nat.add_sub_cancel_left]
  rw [slice, if_pos (by simp), hsize, splitAtByte_byteSize]
  simp [splitAtByte_byteSize]

theorem Text.byteSize_pos {s : List Char} (h : s ≠ []) : 0 < byteSize s := by
  obtain ⟨c, cs, rfl⟩ := List.exists_cons_of_ne_nil h
  have := c.utf8Size_pos
  rw [byteSize_cons]
  omega

/-! ## Tilings -/

namespace Token

/-- The tokens cover a source from behind its first part `before` on. Each of them stands behind
    blanks, its span gives the places of its two ends and the column of the first, and behind the
    last one nothing is left. -/
inductive Tiles (source : List Char) : List Char → List Token → Prop
  | nil : Tiles source source []
  | cons {before gap : List Char} {t : Token} {ts : List Token} (blank : ∀ c ∈ gap, isBlank c)
      (start : t.span.start = byteSize (before ++ gap))
      (stop : t.span.stop = byteSize (before ++ gap ++ t.text.toList))
      (column : t.span.column = (before ++ gap).length + 1)
      (behind : Tiles source (before ++ gap ++ t.text.toList) ts) : Tiles source before (t :: ts)

/-- The parts of a source, in bytes, which lie between tokens: the one from a place to the first
    token, and those from each token to the next. -/
def gapsFrom (start : Nat) : List Token → List (Nat × Nat)
  | [] => []
  | t :: ts => (start, t.span.start) :: gapsFrom t.span.stop ts

namespace Tiles

variable {s before : List Char} {t : Token} {ts : List Token}

theorem exists_eq_append (h : Tiles s before ts) : ∃ rest, s = before ++ rest := by
  induction h with
  | nil => exact ⟨[], by simp⟩
  | cons _ _ _ _ _ ih =>
    obtain ⟨rest, hrest⟩ := ih
    exact ⟨_, by rw [hrest, List.append_assoc, List.append_assoc]⟩

/-- Where a token stands. -/
theorem exists_of_mem (h : Tiles s before ts) (ht : t ∈ ts) :
    ∃ gap behind, s = before ++ gap ++ (t.text.toList ++ behind) ∧
      t.span.start = byteSize (before ++ gap) ∧
      t.span.stop = byteSize (before ++ gap ++ t.text.toList) ∧
      t.span.column = (before ++ gap).length + 1 := by
  induction h with
  | nil => cases ht
  | @cons before gap u ts _ hstart hstop hcolumn hts ih =>
    rcases List.mem_cons.1 ht with rfl | ht
    · obtain ⟨behind, hbehind⟩ := hts.exists_eq_append
      exact ⟨gap, behind, by rw [hbehind, List.append_assoc], hstart, hstop, hcolumn⟩
    · obtain ⟨gap', behind, hs, hspan⟩ := ih ht
      refine ⟨gap ++ (u.text.toList ++ gap'), behind, ?_, ?_⟩
      · rw [hs]
        simp
      · simpa using hspan

/-- The bytes of a span are those of the text of the token. -/
theorem slice_eq (h : Tiles s before ts) (ht : t ∈ ts) :
    slice t.span.start t.span.stop s = some t.text.toList := by
  obtain ⟨gap, behind, hs, hstart, hstop, -⟩ := h.exists_of_mem ht
  rw [hs, hstart, hstop, slice_append]

/-- The column of a token counts the characters before it. -/
theorem exists_column_eq (h : Tiles s before ts) (ht : t ∈ ts) :
    ∃ front back, splitAtByte t.span.start s = some (front, back) ∧
      t.span.column = front.length + 1 := by
  obtain ⟨gap, behind, hs, hstart, -, hcolumn⟩ := h.exists_of_mem ht
  exact ⟨before ++ gap, _, by rw [hs, hstart, splitAtByte_byteSize], hcolumn⟩

theorem start_lt_stop (h : Tiles s before ts) (ht : t ∈ ts) (hne : t.text.toList ≠ []) :
    t.span.start < t.span.stop := by
  obtain ⟨gap, -, -, hstart, hstop, -⟩ := h.exists_of_mem ht
  rw [hstart, hstop, byteSize_append _ t.text.toList]
  exact Nat.lt_add_of_pos_right (byteSize_pos hne)

theorem column_le (h : Tiles s before ts) (ht : t ∈ ts) : t.span.column ≤ s.length + 1 := by
  obtain ⟨gap, behind, hs, -, -, hcolumn⟩ := h.exists_of_mem ht
  rw [hcolumn, hs]
  exact Nat.succ_le_succ (List.sublist_append_left _ _).length_le

/-- A token ends before the next one starts. -/
theorem pairwise (h : Tiles s before ts) : ts.Pairwise fun t u => t.span.stop ≤ u.span.start := by
  induction h with
  | nil => exact .nil
  | cons _ _ hstop _ hts ih =>
    refine List.pairwise_cons.2 ⟨fun u hu => ?_, ih⟩
    obtain ⟨gap, -, -, hstart, -⟩ := hts.exists_of_mem hu
    rw [hstop, hstart, byteSize_append _ gap]
    exact Nat.le_add_right _ _

/-- The same in characters. -/
theorem pairwise_column (h : Tiles s before ts) :
    ts.Pairwise fun t u => t.span.column + t.text.toList.length ≤ u.span.column := by
  induction h with
  | nil => exact .nil
  | cons _ _ _ hcolumn hts ih =>
    refine List.pairwise_cons.2 ⟨fun u hu => ?_, ih⟩
    obtain ⟨gap, -, -, -, -, hcolumn'⟩ := hts.exists_of_mem hu
    rw [hcolumn, hcolumn']
    simp only [List.length_append]
    omega

/-- The parts between the tokens hold blanks only, and in turn with the texts of the tokens they
    make up what is left of the source. -/
theorem exists_gaps (h : Tiles s before ts) :
    ∃ gaps : List (List Char),
      (gapsFrom (byteSize before) ts).map (fun part => slice part.1 part.2 s) = gaps.map some ∧
      (∀ gap ∈ gaps, ∀ c ∈ gap, isBlank c) ∧
      s = before ++ (List.zipWith (fun gap t => gap ++ t.text.toList) gaps ts).flatten := by
  induction h with
  | nil => exact ⟨[], rfl, by simp, by simp⟩
  | @cons before gap t ts hblank hstart hstop _ hts ih =>
    obtain ⟨gaps, hparts, hblanks, hs⟩ := ih
    obtain ⟨behind, hbehind⟩ := hts.exists_eq_append
    have hgap : slice (byteSize before) t.span.start s = some gap := by
      rw [hstart, hbehind, List.append_assoc, List.append_assoc, slice_append]
    refine ⟨gap :: gaps, ?_, List.forall_mem_cons.2 ⟨hblank, hblanks⟩, ?_⟩
    · rw [gapsFrom, List.map_cons, List.map_cons, hstop, hparts, hgap]
    rw [List.zipWith_cons_cons, List.flatten_cons, ← List.append_assoc, ← List.append_assoc]
    exact hs

end Tiles

end Token

/-! ## The tokens behind a place -/

namespace Cursor

open Token

/-- The place in a source between two parts of it. -/
def between (before rest : List Char) : Cursor := ⟨rest, byteSize before, before.length + 1⟩

theorem advance_between (before rest s t : List Char) :
    (between before rest).advance s t = between (before ++ s) t := by
  simp [between, advance, Nat.add_right_comm]

/-- The tokens behind a place in a source cover what is behind it. -/
theorem tiles_tokens (before rest : List Char) :
    Tiles (before ++ rest) before (between before rest).tokens := by
  rcases (between before rest).isBlank_or_finds with hb | ⟨b, k, t, r, hf⟩
  -- The end covers no text, and all that is left is the gap before it.
  · rw [tokens_of_isBlank hb, advance_between]
    refine .cons hb rfl ?_ rfl ?_
    · rw [endToken, String.toList_empty, List.append_nil]
      rfl
    · rw [endToken, String.toList_empty, List.append_nil]
      exact .nil
  · have hrest : rest = b ++ (t ++ r) := hf.rest_eq
    have ih := tiles_tokens (before ++ b ++ t) r
    rw [hf.tokens_eq, hf.next_eq, advance_between, advance_between]
    refine .cons hf.isBlank rfl ?_ rfl ?_
    · rw [String.toList_ofList, List.append_assoc]
      rfl
    · rw [String.toList_ofList, hrest]
      simpa using ih
termination_by rest.length
decreasing_by exact hf.length_lt

/-- At the end of a source the end is found again. -/
theorem take_of_isBlank {c : Cursor} (h : ∀ d ∈ c.rest, isBlank d) (n : Nat) :
    c.take n = List.replicate n (c.advance c.rest []).endToken := by
  induction n generalizing c with
  | zero => rfl
  | succ n ih =>
    have hrest : (c.advance c.rest []).rest = [] := rfl
    rw [take, next_of_isBlank h, ih (by simp [hrest]), hrest, advance_advance, List.append_nil,
      List.replicate_succ]

/-- Asked again and again, a cursor gives its tokens, and then the end for ever. -/
theorem take_eq (c : Cursor) (n : Nat) :
    c.take n = c.tokens.take n ++
      List.replicate (n - c.tokens.length) (c.advance c.rest []).endToken := by
  rcases n with - | n
  · simp [take]
  rcases c.isBlank_or_finds with hb | ⟨b, k, t, r, hf⟩
  · simp [tokens_of_isBlank hb, take_of_isBlank hb, List.replicate_succ]
  · have ih := take_eq (c.advance (b ++ t) r) n
    have hnext : c.next.2 = c.advance (b ++ t) r := by rw [hf.next_eq]
    rw [hf.advance_rest_eq] at ih
    simp [take, hf.tokens_eq, hnext, ih]
termination_by c.rest.length
decreasing_by exact hf.length_lt

end Cursor

namespace Token

/-- The end of a source: the token which covers nothing, behind its last character. -/
def endOf (source : String) : Token :=
  ⟨.eof, "", ⟨byteSize source.toList, byteSize source.toList, source.length + 1⟩⟩

/-- The tokens are those of a source: they cover it in order, with nothing but blanks between
    them. -/
structure IsTiling (source : String) (tokens : List Token) : Prop where
  /-- The end of the source is the last token, and no other is an end. -/
  eof : ∃ ts, tokens = ts ++ [endOf source] ∧ ∀ t ∈ ts, t.kind ≠ .eof
  /-- A token ends before the next one starts. -/
  ordered : tokens.Pairwise fun t u => t.span.stop ≤ u.span.start
  /-- A span starts and ends between two characters, and the text of the token is between the two
      places. -/
  text : ∀ t ∈ tokens, slice t.span.start t.span.stop source.toList = some t.text.toList
  /-- The column counts the characters before the token. -/
  column : ∀ t ∈ tokens, ∃ before behind,
    splitAtByte t.span.start source.toList = some (before, behind) ∧
      t.span.column = before.length + 1
  /-- A token covers something, and does not start with a blank. -/
  solid : ∀ t ∈ tokens, t.kind ≠ .eof → t.span.start < t.span.stop ∧
    ∃ c cs, t.text.toList = c :: cs ∧ ¬isBlank c
  /-- The parts between the tokens are blank, and together with the tokens they are the source. -/
  gaps : ∃ gaps : List (List Char),
    (gapsFrom 0 tokens).map (fun part => slice part.1 part.2 source.toList) = gaps.map some ∧
    (∀ gap ∈ gaps, ∀ c ∈ gap, isBlank c) ∧
    source.toList = (List.zipWith (fun gap t => gap ++ t.text.toList) gaps tokens).flatten

theorem tiles_ofSource (source : String) : Tiles source.toList [] (ofSource source) :=
  Cursor.tiles_tokens [] source.toList

/-- Behind all of a source is its end. -/
theorem endToken_ofSource (source : String) :
    ((Cursor.ofSource source).advance source.toList []).endToken = endOf source :=
  congrArg Cursor.endToken (Cursor.advance_between [] source.toList source.toList [])

/-- A token covers something, and does not start with a blank. -/
theorem solid_of_mem_tokens {c : Cursor} {t : Token} (h : t ∈ c.tokens) (ht : t.kind ≠ .eof) :
    ∃ d ds, t.text.toList = d :: ds ∧ ¬isBlank d := by
  have hf := finds_of_mem_tokens h ht
  obtain ⟨d, ds, hd⟩ := List.exists_cons_of_ne_nil hf.ne_nil
  exact ⟨d, ds, hd, stops_cons.1 (hd ▸ hf.stops)⟩

/-- No two tokens of a source stand at one column. -/
theorem column_ne_of_ofSource {source : String} {before behind : List Token} {t : Token}
    (h : ofSource source = before ++ t :: behind) :
    ∀ u ∈ before ++ behind, u.span.column ≠ t.span.column := by
  -- All tokens but the last one cover something.
  obtain ⟨ts, hts, hne⟩ := (Cursor.ofSource source).exists_tokens_eq
  have hts' : ofSource source = ts ++ [_] := hts
  have hsolid : ∀ u ∈ (before ++ t :: behind).dropLast, 0 < u.text.toList.length := by
    rw [← h, hts', List.dropLast_concat]
    intro u hu
    have hmem : u ∈ (Cursor.ofSource source).tokens := hts ▸ List.mem_append_left _ hu
    obtain ⟨d, ds, htext, -⟩ := solid_of_mem_tokens hmem (hne u hu)
    rw [htext]
    exact Nat.succ_pos _
  have hpairwise := (tiles_ofSource source).pairwise_column
  rw [h] at hpairwise
  obtain ⟨-, hrest, hbefore⟩ := List.pairwise_append.1 hpairwise
  obtain ⟨hbehind, -⟩ := List.pairwise_cons.1 hrest
  rw [List.dropLast_append_cons] at hsolid
  intro u hu
  rcases List.mem_append.1 hu with hu | hu
  · have := hbefore u hu t List.mem_cons_self
    have := hsolid u (List.mem_append_left _ hu)
    omega
  · have := hbehind u hu
    obtain ⟨v, vs, rfl⟩ := List.exists_cons_of_ne_nil (List.ne_nil_of_mem hu)
    have := hsolid t (by simp)
    omega

/-- The columns of a source which is not too long fit in 32 bits. -/
theorem column_lt_of_ofSource {source : String} {t : Token}
    (hsize : source.length < UInt32.size - 1) (ht : t ∈ ofSource source) :
    t.span.column < UInt32.size := by
  have := (tiles_ofSource source).column_le ht
  rw [String.length_toList] at this
  omega

/-- The tokens of a source tile it. They are what a cursor gives when it is asked again and again,
    up to the end of the source, which it then gives for ever. The columns of a source which is not
    too long fit in 32 bits. -/
theorem isTiling_ofSource (source : String) :
    IsTiling source (ofSource source) ∧
      (∀ n, (Cursor.ofSource source).take n = (ofSource source).take n ++
        List.replicate (n - (ofSource source).length) (endOf source)) ∧
      (source.length < UInt32.size - 1 → ∀ t ∈ ofSource source, t.span.column < UInt32.size) := by
  have htiles := tiles_ofSource source
  have hend := endToken_ofSource source
  refine ⟨{ eof := ?_, ordered := htiles.pairwise, text := fun t => htiles.slice_eq,
            column := fun t => htiles.exists_column_eq, solid := fun t ht hk => ?_,
            gaps := ?_ }, fun n => ?_, fun hsize t => column_lt_of_ofSource hsize⟩
  · rw [← hend]
    exact (Cursor.ofSource source).exists_tokens_eq
  · obtain ⟨c, cs, htext, hc⟩ := solid_of_mem_tokens ht hk
    exact ⟨htiles.start_lt_stop ht (htext ▸ List.cons_ne_nil c cs), c, cs, htext, hc⟩
  · simpa using htiles.exists_gaps
  · rw [← hend]
    exact (Cursor.ofSource source).take_eq n

/-- A letter of two bytes, a literal with a sign which may not stand in one, and a word. -/
def mixedSource : String := "é 'a=b' IS"

theorem isTiling_ofSource_mixedSource :
    ofSource mixedSource =
        [⟨.invalid (.unexpected 'é'), "é", ⟨0, 2, 1⟩⟩,
          ⟨.invalid (.notAllowed '='), "'a=b'", ⟨3, 8, 3⟩⟩, ⟨.word "IS", "IS", ⟨9, 11, 9⟩⟩,
          endOf mixedSource] ∧
      IsTiling mixedSource (ofSource mixedSource) ∧
      (Cursor.ofSource mixedSource).take 6 =
        (ofSource mixedSource).take 6 ++ [endOf mixedSource, endOf mixedSource] ∧
      ∀ t ∈ ofSource mixedSource, t.span.column < UInt32.size := by
  have htokens : (ofSource mixedSource).length = 4 := by decide +kernel
  have ⟨htiling, htake, hcolumn⟩ := isTiling_ofSource mixedSource
  refine ⟨by decide +kernel, htiling, ?_, hcolumn (by decide +kernel)⟩
  rw [htake, htokens]
  rfl

end Token

end Interlock
