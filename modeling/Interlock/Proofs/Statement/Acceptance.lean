import Interlock.Proofs.Draft.Play

/-!
# Which statements are rules

A statement is cut at the first separator, its two parts are trimmed and scanned apart from each
other, and a draft takes what they hold. All this comes to the tokens of the whole statement: they
are those of a context, of the word `IF` between two spaces, and of a predicate.

* `Rule.WrittenIn`: a context and a predicate spell a rule. `Rule.read_eq_ok_iff`: the rule which is
  read of a statement is the one which the parts around some separator spell.
* `Rule.SpelledBy.writtenAs`, `Rule.WrittenAs.spelledBy`: a source is cut into such parts just where
  its tokens are those of a rule.

In the end, the statements which are read, and the rules that come of them, are those of the
grammar.
-/

namespace Interlock

open Text

/-! ## Texts which are not blank -/

theorem isBlankText_of_isName {n : String} (h : Token.isName n.toList) : isBlankText n = false := by
  obtain ⟨hne, hlower⟩ := Token.isName_iff.1 h
  refine isBlankText_eq_false ?_ hne
  obtain ⟨c, cs, hcs⟩ := List.exists_cons_of_ne_nil hne
  rw [hcs, stops_cons]
  intro hb
  exact Token.not_isBare_of_isBlank hb (Token.isBare_of_isLower (hlower c (by simp [hcs])))

/-! ## The parts of a statement -/

theorem Statement.names?_eq_some_iff {ts : List Token} {r : String} {q : Option String} :
    names? ts = some (r, q) ↔ ts.map Token.kind = contextKinds r q ++ [.eof] := by
  rw [names?]
  constructor
  · intro h
    split at h
    · next heq =>
      cases h
      exact heq
    · next heq =>
      cases h
      exact heq
    · cases h
  · intro h
    rw [h]
    rcases q with - | q <;> rfl

theorem Statement.split_eq_ok_iff {s context predicate : String} :
    split s = .ok (context, predicate) ↔ ∃ a b, cutAt separator (trim s.toList) = some (a, b) ∧
      trim a ≠ [] ∧ trim b ≠ [] ∧ context = String.ofList (trim a) ∧
      predicate = String.ofList (trim b) := by
  rw [split]
  rcases cutAt separator (trim s.toList) with - | ⟨a, b⟩
  · simp
  · simp only [Bool.or_eq_true, List.isEmpty_iff]
    split
    · next h =>
      constructor
      · rintro ⟨⟩
      · rintro ⟨_, _, ⟨⟩, ha, hb, -⟩
        exact (h.elim ha hb).elim
    · next h =>
      rw [not_or] at h
      constructor
      · rintro ⟨⟩
        exact ⟨a, b, rfl, h.1, h.2, rfl, rfl⟩
      · rintro ⟨_, _, ⟨⟩, -, -, rfl, rfl⟩
        rfl

theorem Statement.readContext_eq_ok_iff {context r : String} {q : Option String} :
    readContext context = .ok (r, q) ↔
      Token.kinds context.toList = contextKinds r q ++ [.eof] := by
  rw [← Token.map_kind_ofSource, ← names?_eq_some_iff, readContext]
  rcases names? (Token.ofSource context) with - | names <;> simp

theorem Statement.readPredicate_eq_ok_iff {predicate : String} {texts : List ClauseText} :
    readPredicate predicate = .ok texts ↔ Chain.read (Token.ofSource predicate) = .ok texts := by
  rw [readPredicate]
  rcases Chain.read (Token.ofSource predicate) with fault | texts' <;> simp

/-- The names of a context are not blank. -/
theorem isBlankText_of_kinds {s : List Char} {r : String} {q : Option String}
    (h : Token.kinds s = contextKinds r q ++ [.eof]) :
    isBlankText r = false ∧ ∀ n ∈ q, isBlankText n = false := by
  have hname {n : String} (hn : Token.Kind.name n ∈ Token.kinds s) : isBlankText n = false :=
    isBlankText_of_isName (Token.wellFormed_of_mem_kinds hn)
  rw [h] at hname
  rcases q with - | q
  · exact ⟨hname (by simp [contextKinds]), by simp⟩
  · refine ⟨hname (by simp [contextKinds]), ?_⟩
    rintro n ⟨⟩
    exact hname (by simp [contextKinds])

/-- A draft which holds nothing yet takes the parts of the clauses of a text. -/
theorem Draft.play_chain {d : Draft} {cur : Cursor} {texts : List ClauseText}
    (h : Chain.read cur.tokens = .ok texts) (hd : d.stage = .left) (hdk : d.connector = none) :
    (d.play ((texts.flatMap ClauseText.parts).map .feed)).result =
      (texts.mapM ClauseText.read).map (List.foldl close d) := by
  obtain ⟨⟨t, texts, rfl, hk, hks⟩, -⟩ := Chain.read_eq_ok_iff.1 h
  obtain ⟨shapes, -, hshapes, -⟩ := Chain.exists_shapes_of_read h
  refine play_texts hd hdk hk hks fun u hu => ?_
  obtain ⟨x, -, hx⟩ := exists_of_mem_left hshapes hu
  exact hx.not_isBlankText

/-- What reading a statement comes to: its parts, the names of the context, the chain of clauses in
    the predicate, and what these mean, in this order. -/
theorem Draft.result_read (s : String) : (Draft.read s).result = (do
    let (context, predicate) ← Statement.split s
    let (r, q) ← Statement.readContext context
    if q = some r then
      .error { cause := .invalidContextMapping Slot.restricting.key r "name already mapped" }
    else
      let texts ← Statement.readPredicate predicate
      (texts.mapM ClauseText.read).map
        (List.foldl close { empty with requestingName := some r, restrictingName := q })) := by
  rw [Draft.read, Traced.result_liftM_bind]
  refine bind_congr ?_
  rintro ⟨context, predicate⟩
  rw [Traced.result_liftM_bind]
  refine bind_congr_of_ok ?_
  rintro ⟨r, q⟩ hcontext
  -- The names of the context are not blank, so the draft refuses them only if they are the same.
  obtain ⟨hr, hq⟩ := isBlankText_of_kinds (Statement.readContext_eq_ok_iff.1 hcontext)
  rw [Traced.result_bind, play_declarations hr hq]
  by_cases hne : q = some r
  · simp only [if_pos hne, Except.bind]
  · simp only [if_neg hne, Except.bind, Traced.result_liftM_bind]
    refine bind_congr_of_ok fun texts htexts => ?_
    exact play_chain (Statement.readPredicate_eq_ok_iff.1 htexts) rfl rfl

/-- The draft of a statement has the names of its context and the clauses that its predicate
    means. -/
theorem Draft.read_eq_ok_iff {s : String} {d : Draft} : (Draft.read s).result = .ok d ↔
    ∃ context predicate r q texts cs, Statement.split s = .ok (context, predicate) ∧
      Token.kinds context.toList = contextKinds r q ++ [.eof] ∧ q ≠ some r ∧
      Chain.read (Token.ofSource predicate) = .ok texts ∧ ClauseText.Mean texts cs ∧
      d = cs.foldl close { empty with requestingName := some r, restrictingName := q } := by
  simp only [result_read, bind_eq_ok_iff, Prod.exists, Statement.readContext_eq_ok_iff]
  constructor
  · rintro ⟨context, predicate, hsplit, r, q, hcontext, h⟩
    split at h
    · cases h
    · next hne =>
      obtain ⟨texts, htexts, h⟩ := bind_eq_ok_iff.1 h
      obtain ⟨cs, hmean, rfl⟩ := map_eq_ok_iff.1 h
      exact ⟨context, predicate, r, q, texts, cs, hsplit, hcontext, hne,
        Statement.readPredicate_eq_ok_iff.1 htexts, mapM_eq_ok_iff.1 hmean, rfl⟩
  · rintro ⟨context, predicate, r, q, texts, cs, hsplit, hcontext, hne, htexts, hmean, rfl⟩
    refine ⟨context, predicate, hsplit, r, q, hcontext, ?_⟩
    rw [if_neg hne, bind_eq_ok_iff]
    exact ⟨texts, Statement.readPredicate_eq_ok_iff.2 htexts,
      map_eq_ok_iff.2 ⟨cs, mapM_eq_ok_iff.2 hmean, rfl⟩⟩

/-- The tokens of a context and of a predicate spell the rule. -/
structure Rule.WrittenIn (r : Rule) (context predicate : List Char) : Prop where
  context : Token.kinds context = contextKinds r.requesting r.restricting ++ [.eof]
  predicate : ∃ ks, Predicate.Spells ks r.predicate ∧ Token.kinds predicate = ks ++ [.eof]
  wellNamed : r.WellNamed

theorem Rule.result_read (s : String) :
    (Rule.read s).result = (Draft.read s).result >>= Draft.toRule := by
  rw [Rule.read, Traced.result_bind]
  refine bind_congr (m := Except Error) fun d => ?_
  rw [Traced.result_liftM_bind]
  rcases d.toRule with err | r
  · rfl
  · rfl

/-- The rule of a statement is the one which the parts of the statement spell. -/
theorem Rule.read_eq_ok_iff_split {s : String} {r : Rule} : (Rule.read s).result = .ok r ↔
    ∃ context predicate, Statement.split s = .ok (context, predicate) ∧
      r.WrittenIn context.toList predicate.toList := by
  simp only [result_read, bind_eq_ok_iff, Draft.read_eq_ok_iff, Draft.toRule_eq_ok_iff]
  constructor
  · rintro ⟨_, ⟨context, predicate, req, res, texts, cs, hsplit, hcontext, hne, htexts, hmean, rfl⟩,
      -, -, hreq, hres, hclauses, hnames⟩
    rcases cs with - | ⟨c, cs⟩
    · exact absurd hclauses.symm r.predicate.clauses_ne_nil
    · simp only [Draft.foldl_close, Draft.empty, List.nil_append, Option.some.injEq] at *
      subst hreq hres
      obtain ⟨-, parts, hparts, hkinds⟩ := Chain.exists_read_iff.1 ⟨texts, htexts, hmean⟩
      exact ⟨context, predicate, hsplit, hcontext, ⟨_, ⟨parts, hclauses ▸ hparts, rfl⟩, hkinds⟩,
        hne, hnames⟩
  · rintro ⟨context, predicate, hsplit, hcontext, ⟨_, ⟨parts, hparts, rfl⟩, hkinds⟩, hne, hnames⟩
    obtain ⟨texts, htexts, hmean⟩ :=
      Chain.exists_read_iff.2 ⟨r.predicate.joined, parts, hparts, hkinds⟩
    refine ⟨_, ⟨context, predicate, r.requesting, r.restricting, texts, _, hsplit, hcontext, hne,
      htexts, hmean, rfl⟩, ?_⟩
    rcases hclauses : r.predicate.clauses with - | ⟨c, cs⟩
    · exact absurd hclauses r.predicate.clauses_ne_nil
    · rw [Draft.foldl_close, ← hclauses]
      exact ⟨rfl, rfl, rfl, rfl, rfl, hnames⟩

/-! ## The separator -/

/-- No literal stands in a context, nor the word `IF`. -/
theorem isPlain_of_mem_contextKinds {k : Token.Kind} {r : String} {q : Option String}
    (h : k ∈ contextKinds r q ++ [.eof]) : k.isPlain ∧ k ≠ .word "IF" := by
  rcases q with - | q
  all_goals
    simp only [contextKinds, List.cons_append, List.nil_append, List.mem_cons, List.not_mem_nil,
      or_false] at h
    rcases h with rfl | rfl | rfl | rfl | rfl | rfl | rfl | rfl <;> simp [Token.Kind.isPlain]

/-- The first separator stands behind the context. -/
theorem Statement.cutAt_separator {a : List Char} {r : String} {q : Option String}
    (h : Token.kinds a = contextKinds r q ++ [.eof]) (b : List Char) :
    cutAt separator (a ++ (separator ++ b)) = some (a, b) := by
  obtain ⟨a', b', hcut, hle⟩ := exists_cutAt (Eq.refl (a ++ (separator ++ b)))
  rcases List.append_eq_append_iff.1 (eq_append_of_cutAt hcut) with ⟨w, rfl, hw⟩ | ⟨w, rfl, hw⟩
  · obtain rfl : w = [] := List.eq_nil_of_length_eq_zero (by rw [List.length_append] at hle; omega)
    rw [hcut]
    simpa using hw.symm
  -- An earlier separator would have its word before the end of the context, as a space stands
  -- directly behind the end. But the word `IF` is none of the words of a context.
  · rcases w with - | ⟨c, - | ⟨d, - | ⟨e, w⟩⟩⟩
    · rw [List.append_nil] at hcut ⊢
      rw [hcut]
      simpa using hw
    · simp [separator] at hw
    · simp [separator] at hw
    · obtain ⟨rfl, rfl, rfl, hrest⟩ : ' ' = c ∧ 'I' = d ∧ 'F' = e ∧
        ' ' :: b' = w ++ (separator ++ b) := by simpa [separator] using hw
      have hw : Stops Token.isBare w := by
        rcases w with - | ⟨c, w⟩
        · exact stops_nil
        · obtain ⟨rfl, -⟩ := List.cons.inj hrest
          exact stops_cons.2 (by decide)
      have hspace : Stops Token.isBare (' ' :: 'I' :: 'F' :: w) := stops_cons.2 (by decide)
      -- No literal stands in a context, so none is open in front of the separator either.
      have hclosed : Token.Closed a' := Token.closed_of_isPlain hspace fun k hk =>
        (isPlain_of_mem_contextKinds (h ▸ hk)).1
      have hkinds : Token.kinds ('I' :: 'F' :: w) = .word "IF" :: Token.kinds w :=
        Token.kinds_run (List.cons_ne_nil 'I' ['F']) (List.all_eq_true.1 rfl) hw
      rw [Token.kinds_append hclosed hspace, Token.kinds_space, hkinds] at h
      have hmem : Token.Kind.word "IF" ∈ contextKinds r q ++ [.eof] := by
        rw [← h]
        simp
      exact absurd rfl (isPlain_of_mem_contextKinds hmem).2

/-! ## The statement as a whole -/

/-- The text is a context, a separator and a predicate, which spell the rule. -/
def Rule.WrittenAs (r : Rule) (s : List Char) : Prop :=
  ∃ context predicate, s = context ++ (Statement.separator ++ predicate) ∧
    r.WrittenIn context predicate

theorem Rule.WrittenIn.closed_context {r : Rule} {a b : List Char} (h : r.WrittenIn a b) :
    Token.Closed a := by
  intro k hk
  rw [h.context] at hk
  exact Token.Kind.isOpen_of_isPlain (isPlain_of_mem_contextKinds hk).1

theorem Clause.Spells.isOpen_eq_false {ks : List Token.Kind} {c : Clause} (h : Spells ks c) :
    ∀ k ∈ ks, k.isOpen = false := by
  have hphrase {ws : List String} : ∀ k ∈ phraseKinds ws, k.isOpen = false := by
    intro k hk
    obtain ⟨w, -, rfl⟩ := List.mem_map.1 hk
    rfl
  have hoperand {k : Token.Kind} {o : Operand} (h : Operand.Spells k o) : k.isOpen = false := by
    cases h <;> rfl
  have hcompares {l r : Token.Kind} {ws : List String} (h : c.Compares l ws r) :
      ∀ k ∈ l :: (phraseKinds ws ++ [r]), k.isOpen = false := by
    intro k hk
    rcases List.mem_cons.1 hk with rfl | hk
    · exact hoperand h.left
    · rcases List.mem_append.1 hk with hk | hk
      · exact hphrase k hk
      · exact List.mem_singleton.1 hk ▸ hoperand h.right
  cases h with
  | first hk h => exact hcompares h
  | joined hk hks h =>
    intro k hmem
    exact (List.mem_append.1 hmem).elim (hphrase k) (hcompares h k)

theorem Predicate.Spells.isOpen_eq_false {ks : List Token.Kind} {p : Predicate}
    (h : Spells ks p) : ∀ k ∈ ks ++ [.eof], k.isOpen = false := by
  obtain ⟨parts, hparts, rfl⟩ := h
  intro k hk
  rcases List.mem_append.1 hk with hk | hk
  · obtain ⟨part, hpart, hk⟩ := List.mem_flatten.1 hk
    obtain ⟨c, -, hc⟩ := exists_of_mem_left hparts hpart
    exact hc.isOpen_eq_false k hk
  · rw [List.mem_singleton.1 hk]
    rfl

theorem Predicate.Spells.ne_nil {ks : List Token.Kind} {p : Predicate} (h : Spells ks p) :
    ks ≠ [] := by
  obtain ⟨parts, hparts, rfl⟩ := h
  obtain ⟨c, cs, hcs⟩ := List.exists_cons_of_ne_nil p.clauses_ne_nil
  rw [hcs] at hparts
  obtain ⟨part, parts, hc, -, rfl⟩ := List.forall₂_cons_right_iff.1 hparts
  cases hc <;> simp

theorem Rule.WrittenIn.closed_predicate {r : Rule} {a b : List Char} (h : r.WrittenIn a b) :
    Token.Closed b := by
  obtain ⟨ks, hks, hb⟩ := h.predicate
  intro k hk
  rw [hb] at hk
  exact hks.isOpen_eq_false k hk

/-- Blanks around the two parts do not matter. -/
theorem Rule.writtenIn_trim {r : Rule} {a b : List Char} :
    r.WrittenIn (trim a) (trim b) ↔ r.WrittenIn a b := by
  constructor
  · intro h
    have ha := Token.kinds_trim (.inr h.closed_context)
    have hb := Token.kinds_trim (.inr h.closed_predicate)
    exact ⟨ha ▸ h.context, hb ▸ h.predicate, h.wellNamed⟩
  · intro h
    have ha := Token.kinds_trim (.inl h.closed_context)
    have hb := Token.kinds_trim (.inl h.closed_predicate)
    exact ⟨ha.symm ▸ h.context, hb.symm ▸ h.predicate, h.wellNamed⟩

theorem Rule.WrittenIn.ne_nil {r : Rule} {a b : List Char} (h : r.WrittenIn a b) :
    a ≠ [] ∧ b ≠ [] := by
  constructor
  · rintro rfl
    have hctx := h.context
    rw [Token.kinds_nil] at hctx
    generalize r.restricting = q at hctx
    rcases q with - | q <;> cases hctx
  · rintro rfl
    obtain ⟨ks, hks, hb⟩ := h.predicate
    exact hks.ne_nil (by simpa using hb)

/-- The rule of a statement is the one as which the trimmed statement is written. -/
theorem Rule.read_eq_ok_iff {s : String} {r : Rule} :
    (Rule.read s).result = .ok r ↔ r.WrittenAs (trim s.toList) := by
  rw [read_eq_ok_iff_split]
  constructor
  · rintro ⟨context, predicate, hsplit, h⟩
    obtain ⟨a, b, hcut, -, -, rfl, rfl⟩ := Statement.split_eq_ok_iff.1 hsplit
    rw [String.toList_ofList, String.toList_ofList] at h
    exact ⟨a, b, eq_append_of_cutAt hcut, writtenIn_trim.1 h⟩
  · rintro ⟨a, b, hs, h⟩
    have hcut : cutAt Statement.separator (trim s.toList) = some (a, b) := by
      rw [hs, Statement.cutAt_separator h.context]
    replace h := writtenIn_trim.2 h
    refine ⟨String.ofList (trim a), String.ofList (trim b), Statement.split_eq_ok_iff.2
      ⟨a, b, hcut, h.ne_nil.1, h.ne_nil.2, rfl, rfl⟩, ?_⟩
    simpa using h

/-! ## The tokens of the source -/

theorem eq_of_byteSize_eq {a b a' b' : List Char} (h : a ++ b = a' ++ b')
    (hsize : byteSize a = byteSize a') : a = a' ∧ b = b' := by
  have hcut := splitAtByte_byteSize a b
  rw [h, hsize, splitAtByte_byteSize] at hcut
  simpa [eq_comm] using hcut

/-- A source whose tokens spell a rule is written as the rule. -/
theorem Rule.SpelledBy.writtenAs {r : Rule} {source : String} (h : r.SpelledBy source) :
    r.WrittenAs source.toList := by
  obtain ⟨context, mark, predicate, htokens, hcontext, hmark, ⟨before, behind, hsource, hstart⟩,
    ⟨ks, hks, hpredicate⟩, hnames⟩ := h
  have hmem : mark ∈ (Cursor.ofSource source).tokens := by
    rw [← Token.ofSource, htokens]
    simp
  obtain ⟨pre, post, e, hrest, hpre, hhead, he, htail⟩ :=
    Cursor.tokens_eq_append htokens (by simp [hmark])
  -- The place of the mark is known twice over: from the spaces around it, and from the tokens to
  -- its sides. Both cut the source alike, as they cut it at the same byte.
  have htext : mark.text = "IF" := Token.text_of_word hmem hmark
  obtain ⟨rfl, hpost⟩ : pre = before ++ [' '] ∧
      mark.text.toList ++ post = mark.text.toList ++ ' ' :: behind := by
    refine eq_of_byteSize_eq ?_ (by rw [← hstart, hpre, Cursor.ofSource, Nat.zero_add])
    rw [← hrest, Cursor.ofSource, hsource]
    simp
  obtain rfl := List.append_cancel_left hpost
  have hkinds : Token.kinds (before ++ [' ']) =
      contextKinds r.requesting r.restricting ++ [.eof] := by
    have hmap := congrArg (List.map Token.kind) hhead
    rwa [Token.map_kind_tokens, List.map_append, hcontext, List.map_singleton, he] at hmap
  have hclosed : Token.Closed (before ++ [' ']) := fun k hk =>
    Token.Kind.isOpen_of_isPlain (isPlain_of_mem_contextKinds (hkinds ▸ hk)).1
  refine ⟨before, behind, by rw [hsource, htext]; rfl, ?_, ⟨ks, hks, ?_⟩, hnames⟩
  · have hspace : ∀ c ∈ [' '], isBlank c := List.forall_mem_singleton.2 isBlank_space
    rw [← hkinds, Token.kinds_append_blanks hspace (.inr hclosed)]
  · rw [← hpredicate, ← htail, Token.map_kind_tokens]
    exact (Token.kinds_space behind).symm

/-- The tokens of a source which is written as a rule spell the rule. -/
theorem Rule.WrittenAs.spelledBy {r : Rule} {source : String} (h : r.WrittenAs source.toList) :
    r.SpelledBy source := by
  obtain ⟨a, b, hs, h⟩ := h
  obtain ⟨ks, hks, hpredicate⟩ := h.predicate
  -- The context leaves no literal open, so its tokens stay what they are with the mark behind them.
  let behind : List Char := ' ' :: ('I' :: 'F' :: ' ' :: b)
  let cur : Cursor := { rest := a }
  have hclosed : ∀ t ∈ cur.tokens, t.kind.isOpen = false := by
    simpa [Token.Closed, Token.kinds, cur] using h.closed_context
  have hfinds : (cur.advance a behind).Finds [' '] (.word "IF") ['I', 'F'] (' ' :: b) :=
    ⟨rfl, List.forall_mem_singleton.2 isBlank_space, stops_cons.2 (by decide), by simp,
      Token.scan_run (List.cons_ne_nil 'I' ['F']) (List.all_eq_true.1 rfl)
        (stops_cons.2 (by decide))⟩
  have htokens : Token.ofSource source = cur.tokens.dropLast ++ (cur.advance a behind).tokens := by
    rw [Token.ofSource, Cursor.ofSource, hs]
    exact Cursor.tokens_append hclosed (stops_cons.2 (by decide))
  have hnext := hfinds.next_eq
  refine ⟨cur.tokens.dropLast, (cur.advance a behind).next.1, _,
    htokens.trans (by rw [hfinds.tokens_eq]), ?_, by rw [hnext], ⟨a, b, ?_, ?_⟩, ⟨ks, hks, ?_⟩,
    h.wellNamed⟩
  · rw [List.map_dropLast, Token.map_kind_tokens, h.context, List.dropLast_concat]
  · rw [hs, hnext]
    simp [Statement.separator]
  · rw [hnext]
    simp [Cursor.advance, cur]
  · rw [Token.map_kind_tokens]
    exact (Token.kinds_space b).trans hpredicate

/-- A statement is read as a rule just where the tokens of the trimmed statement are those of the
    rule: a context, the word `IF` between spaces, and a chain of well-typed clauses which refer to
    the names of the context. In particular, a statement is read at all just where its tokens are
    those of some rule. -/
theorem Rule.read_eq_ok_iff_spelledBy (s : String) :
    (∀ r : Rule, (Rule.read s).result = .ok r ↔ r.SpelledBy (String.ofList (trim s.toList))) ∧
      ((∃ r, (Rule.read s).result = .ok r) ↔
        ∃ r : Rule, r.SpelledBy (String.ofList (trim s.toList))) := by
  have hiff (r : Rule) :
      (Rule.read s).result = .ok r ↔ r.SpelledBy (String.ofList (trim s.toList)) := by
    rw [read_eq_ok_iff]
    constructor
    · intro h
      exact WrittenAs.spelledBy (by rwa [String.toList_ofList])
    · intro h
      have hwritten := h.writtenAs
      rwa [String.toList_ofList] at hwritten
  exact ⟨hiff, exists_congr hiff⟩

end Interlock
