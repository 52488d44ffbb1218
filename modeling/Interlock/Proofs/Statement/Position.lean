import Interlock.Proofs.Statement.Diagnosis
import Interlock.Proofs.Token.Tiling

/-!
# Where a predicate breaks off

A predicate is checked token by token, and words are taken as long as they come before it is asked
what they say. Still, a message about a token is about the first one which fits no chain of clauses:
up to this token there is a chain which goes on, and with it there is none. A message about words is
about all words behind the clauses which were read, and these are a chain by themselves.

* `Chain.IsSentence`: the tokens of a chain, with the end.
* `Chain.Awaits`: what was read up to a place, and the part which has to come next.
  `Chain.Awaits.exists_isSentence`: a chain may go on with this part.
  `Chain.Awaits.takes_of_isSentence`: and with nothing else.
* `Chain.Fault.Locates`: what a fault says of the tokens. `Chain.locates_expected`: it is said of
  the first token which does not fit. `Chain.locates_of_readClause`,
  `Chain.locates_of_readConnector`, `Chain.locates_of_readRest`: so it is in every part of a chain.

The columns in messages are numbers of 32 bits, for which a predicate must not be too long.
-/

namespace Interlock

open Text

namespace Clause

variable {x y : Shape} {a b : List Token.Kind}

/-- The tokens of a clause are told from what stands behind them. -/
theorem Shape.kinds_append_inj (hx : x.Fits) (hy : y.Fits) (h : x.kinds ++ a = y.kinds ++ b) :
    x = y ∧ a = b := by
  obtain ⟨joint, left, phrase, right⟩ := x
  obtain ⟨joint', left', phrase', right'⟩ := y
  simp only [kinds, List.append_assoc, List.cons_append, List.nil_append] at h
  have hword {k : Token.Kind} (hk : k.isOperand) := Token.Kind.word?_eq_none_of_isOperand hk
  obtain ⟨rfl, rfl, htail⟩ := phraseKinds_append_inj (hword hx.left) (hword hy.left) h
  obtain ⟨rfl, rfl, rfl⟩ := phraseKinds_append_inj (hword hx.right) (hword hy.right) htail
  exact ⟨rfl, rfl⟩

theorem Shape.kinds_ne_nil (x : Shape) : x.kinds ≠ [] := by
  simp [kinds]

/-- Just the first clause of a chain has no connector. -/
theorem AreChain.joint_eq_nil_iff {xs zs : List Shape} {z : Shape} (h : AreChain (xs ++ z :: zs)) :
    z.joint = [] ↔ xs = [] := by
  obtain ⟨x, ys, heq, hx, hys⟩ := h.joined
  rcases xs with - | ⟨x', xs⟩
  · obtain ⟨rfl, -⟩ := List.cons.inj heq
    simp [hx]
  · obtain ⟨-, rfl⟩ := List.cons.inj heq
    simp [hys z (by simp)]

/-- A chain ends with an operand. -/
theorem AreChain.exists_eq_concat {xs : List Shape} (h : AreChain xs) :
    ∃ ks r, xs.flatMap Shape.kinds = ks ++ [r] ∧ r.isOperand := by
  obtain ⟨x, ys, rfl, -⟩ := h.joined
  obtain ⟨init, y, hy⟩ := (List.eq_nil_or_concat (x :: ys)).resolve_left (List.cons_ne_nil x ys)
  rw [hy] at h ⊢
  refine ⟨init.flatMap Shape.kinds ++ (phraseKinds y.joint ++ y.left :: phraseKinds y.phrase),
    y.right, ?_, (h.fits y (by simp)).right⟩
  simp [Shape.kinds]

end Clause

namespace Chain

open Clause

/-! ## Chains and their first parts -/

/-- The kinds of the tokens of a chain of clauses, and the end. -/
def IsSentence (ks : List Token.Kind) : Prop :=
  ∃ xs, AreChain xs ∧ ks = xs.flatMap Shape.kinds ++ [.eof]

/-- A token of this kind begins the part. -/
def Part.Begins : Part → Token.Kind → Prop
  | operand, k => k.isOperand
  | operator, k => k.word?.isSome
  | connector, k => k.word?.isSome

/-- Behind these clauses there may be another one, with these words in front. -/
inductive Continues : List Shape → List String → Prop
  | first : Continues [] []
  | joined {xs : List Shape} {ks : List String} {k : Connector} (h : AreChain xs)
    (hk : Connector.Spells ks k) : Continues xs ks

/-- What was read is a first part of a chain, which has to go on with the given part. -/
inductive Awaits : List Token.Kind → Part → Prop
  | connector {xs : List Shape} (h : AreChain xs) : Awaits (xs.flatMap Shape.kinds) .connector
  | left {xs : List Shape} {ks : List String} (h : Continues xs ks) :
    Awaits (xs.flatMap Shape.kinds ++ phraseKinds ks) .operand
  | operator {xs : List Shape} {ks : List String} {l : Token.Kind} (h : Continues xs ks)
    (hl : l.isOperand) : Awaits (xs.flatMap Shape.kinds ++ (phraseKinds ks ++ [l])) .operator
  | right {xs : List Shape} {ks ws : List String} {l : Token.Kind} (h : Continues xs ks)
    (hl : l.isOperand) (hws : ws ≠ []) :
    Awaits (xs.flatMap Shape.kinds ++ (phraseKinds ks ++ l :: phraseKinds ws)) .operand

/-- The kinds with which a chain may go on where a part has to come next. Words which have begun may
    go on, and behind a clause the chain may end. -/
def Part.Takes (read : List Token.Kind) : Part → Token.Kind → Prop
  | operand, k => k.isOperand ∨ read ≠ [] ∧ k.word?.isSome
  | operator, k => k.word?.isSome
  | connector, k => k.word?.isSome ∨ k = .eof

variable {xs ys : List Shape} {ks ws : List String} {l r : Token.Kind}

theorem Continues.areChain (h : Continues xs ks) (hl : l.isOperand) (hws : ws ≠ [])
    (hr : r.isOperand) : AreChain (xs ++ [⟨ks, l, ws, r⟩]) := by
  cases h with
  | first => exact ⟨by simpa using ⟨.inl rfl, hl, hws, hr⟩, _, [], rfl, rfl, by simp⟩
  | @joined _ _ k h hk =>
    obtain ⟨hfits, x, ys, rfl, hx, hys⟩ := h
    refine ⟨List.forall_mem_append.2 ⟨hfits, by simpa using ⟨.inr ⟨k, hk⟩, hl, hws, hr⟩⟩, x, _, rfl,
      hx, List.forall_mem_append.2 ⟨hys, by simpa using hk.ne_nil⟩⟩

theorem Continues.fits (h : Continues xs ks) : ∀ x ∈ xs, x.Fits := by
  cases h with
  | first => simp
  | joined h hk => exact h.fits

/-- Where a part has to come next, there is a chain which goes on with it. -/
theorem Awaits.exists_isSentence {read : List Token.Kind} {part : Part} (h : Awaits read part) :
    ∃ k more, part.Begins k ∧ IsSentence (read ++ k :: more) := by
  have hzero : (Token.Kind.int 0).isOperand := rfl
  have his : ["IS"] ≠ [] := by simp
  have hsentence {xs : List Shape} {ks ws : List String} {l r : Token.Kind} (h : Continues xs ks)
      (hl : l.isOperand) (hws : ws ≠ []) (hr : r.isOperand) :
      IsSentence (xs.flatMap Shape.kinds ++
        (phraseKinds ks ++ l :: (phraseKinds ws ++ [r, .eof]))) :=
    ⟨_, h.areChain hl hws hr, by simp [Shape.kinds]⟩
  cases h with
  | connector h =>
    refine ⟨.word "AND", [.int 0, .word "IS", .int 0, .eof], rfl, ?_⟩
    exact hsentence (.joined h .and) hzero his hzero
  | left h =>
    refine ⟨.int 0, [.word "IS", .int 0, .eof], rfl, ?_⟩
    rw [List.append_assoc]
    exact hsentence h hzero his hzero
  | operator h hl =>
    refine ⟨.word "IS", [.int 0, .eof], rfl, ?_⟩
    rw [List.append_assoc, List.append_assoc, List.singleton_append]
    exact hsentence h hl his hzero
  | right h hl hws =>
    refine ⟨.int 0, [.eof], rfl, ?_⟩
    simpa using hsentence h hl hws hzero

/-- Clauses at the head of a chain are its first clauses. -/
theorem exists_eq_append_of_flatMap {a : List Token.Kind} (hxs : ∀ x ∈ xs, x.Fits)
    (hys : ∀ y ∈ ys, y.Fits)
    (h : xs.flatMap Shape.kinds ++ a = ys.flatMap Shape.kinds ++ [.eof]) :
    ∃ zs, ys = xs ++ zs ∧ a = zs.flatMap Shape.kinds ++ [.eof] := by
  induction xs generalizing ys with
  | nil => exact ⟨ys, rfl, by simpa using h⟩
  | cons x xs ih =>
    rw [List.forall_mem_cons] at hxs
    rcases ys with - | ⟨y, ys⟩
    · obtain ⟨k, ks, hk⟩ := List.exists_cons_of_ne_nil x.kinds_ne_nil
      simp only [List.flatMap_cons, hk, List.append_assoc, List.cons_append] at h
      exact absurd (List.cons.inj h).1 (hxs.1.ne_eof k (by simp [hk]))
    · rw [List.forall_mem_cons] at hys
      simp only [List.flatMap_cons, List.append_assoc] at h
      obtain ⟨rfl, htail⟩ := Shape.kinds_append_inj hxs.1 hys.1 h
      obtain ⟨zs, rfl, ha⟩ := ih hxs.2 hys.2 htail
      exact ⟨zs, rfl, ha⟩

/-- An operand behind words, or behind nothing, is the left one of a clause with these words in
    front. -/
theorem exists_cons_of_flatMap {zs : List Shape} {a : List Token.Kind} (hl : l.isOperand)
    (hzs : ∀ z ∈ zs, z.Fits)
    (h : phraseKinds ks ++ l :: a = zs.flatMap Shape.kinds ++ [.eof]) :
    ∃ z zs', zs = z :: zs' ∧ z.joint = ks ∧ z.left = l ∧
      a = phraseKinds z.phrase ++ z.right :: (zs'.flatMap Shape.kinds ++ [.eof]) := by
  have hword {k : Token.Kind} (hk : k.isOperand) := Token.Kind.word?_eq_none_of_isOperand hk
  rcases zs with - | ⟨z, zs⟩
  · obtain ⟨-, rfl, -⟩ := @phraseKinds_append_inj _ [] _ _ _ _ (hword hl) rfl h
    cases hl
  · rw [List.forall_mem_cons] at hzs
    simp only [List.flatMap_cons, Shape.kinds, List.append_assoc, List.cons_append,
      List.nil_append] at h
    obtain ⟨hks, hleft, ha⟩ := phraseKinds_append_inj (hword hl) (hword hzs.1.left) h
    exact ⟨z, zs, rfl, hks.symm, hleft.symm, ha⟩

/-- Words before an operand go on, or the operand comes next. -/
theorem isOperand_or_isWord {ws' : List String} {k : Token.Kind} {a b : List Token.Kind}
    (hr : r.isOperand) (h : phraseKinds ws ++ k :: a = phraseKinds ws' ++ r :: b) :
    k.isOperand ∨ k.word?.isSome := by
  rcases hk : k.word? with - | w
  · obtain ⟨-, rfl, -⟩ :=
      phraseKinds_append_inj hk (Token.Kind.word?_eq_none_of_isOperand hr) h
    exact .inl hr
  · exact .inr rfl

/-- Where a part has to come next, a chain goes on with nothing else. -/
theorem Awaits.takes_of_isSentence {read more : List Token.Kind} {part : Part} {k : Token.Kind}
    (h : Awaits read part) (hs : IsSentence (read ++ k :: more)) : part.Takes read k := by
  obtain ⟨ys, hys, heq⟩ := hs
  cases h with
  | @connector xs h =>
    obtain ⟨zs, rfl, hrest⟩ := exists_eq_append_of_flatMap h.fits hys.fits heq
    rcases zs with - | ⟨z, zs⟩
    · exact .inr (List.cons.inj hrest).1
    -- The next clause has a connector, as it is not the first one.
    · have hxs : xs ≠ [] := by
        obtain ⟨x, xs', rfl, -⟩ := h.joined
        simp
      obtain ⟨w, ws, hws⟩ := List.exists_cons_of_ne_nil (mt hys.joint_eq_nil_iff.1 hxs)
      rw [List.flatMap_cons, Shape.kinds, hws] at hrest
      rw [(List.cons.inj hrest).1]
      exact .inl rfl
  | @left xs ks h =>
    rw [List.append_assoc] at heq
    obtain ⟨zs, rfl, hrest⟩ := exists_eq_append_of_flatMap h.fits hys.fits heq
    cases h with
    | first =>
      obtain ⟨z, zs, rfl, -⟩ := hys.joined
      rw [List.flatMap_cons, Shape.kinds, hys.joint_eq_nil_iff.2 rfl] at hrest
      rw [(List.cons.inj hrest).1]
      exact .inl (hys.fits z (by simp)).left
    | joined h hks =>
      obtain ⟨w, ws, rfl⟩ := List.exists_cons_of_ne_nil hks.ne_nil
      rcases zs with - | ⟨z, zs⟩
      · cases (List.cons.inj hrest).1
      · rw [List.flatMap_cons, Shape.kinds, List.append_assoc, List.append_assoc] at hrest
        have hk := isOperand_or_isWord (hys.fits z (by simp)).left hrest
        exact hk.imp_right fun hk => ⟨by simp [phraseKinds], hk⟩
  | @operator xs ks l h hl =>
    rw [List.append_assoc, List.append_assoc, List.singleton_append] at heq
    obtain ⟨zs, rfl, hrest⟩ := exists_eq_append_of_flatMap h.fits hys.fits heq
    obtain ⟨z, zs, rfl, -, -, hmore⟩ := exists_cons_of_flatMap hl
      (fun z hz => hys.fits z (List.mem_append_right _ hz)) hrest
    obtain ⟨w, ws, hws⟩ := List.exists_cons_of_ne_nil (hys.fits z (by simp)).ne_nil
    rw [hws] at hmore
    rw [(List.cons.inj hmore).1]
    rfl
  | @right xs ks ws l h hl hws =>
    rw [List.append_assoc, List.append_assoc, List.cons_append] at heq
    obtain ⟨zs, rfl, hrest⟩ := exists_eq_append_of_flatMap h.fits hys.fits heq
    obtain ⟨z, zs, rfl, -, -, hmore⟩ := exists_cons_of_flatMap hl
      (fun z hz => hys.fits z (List.mem_append_right _ hz)) hrest
    have hk := isOperand_or_isWord (hys.fits z (by simp)).right hmore
    exact hk.imp_right fun hk => ⟨by simp, hk⟩

/-! ## What faults say -/

/-- What a fault says of some tokens. -/
inductive Fault.Locates (tokens : List Token) : Fault → Prop
  /-- One token stands at the column. Up to it, there is a chain which goes on with the part that
      was expected, and with it there is none. -/
  | expected {part : Part} {before behind : List Token} {t : Token}
    (htokens : tokens = before ++ t :: behind)
    (hcolumn : ∀ u ∈ before ++ behind, u.span.column ≠ t.span.column)
    (hviable : ∃ k more, part.Begins k ∧ IsSentence (before.map Token.kind ++ k :: more))
    (hearliest : ∀ more, ¬IsSentence (before.map Token.kind ++ t.kind :: more)) :
    Locates tokens (.expected part t.kind t.span.column)
  /-- The tokens before some words are a chain. The words, which go on in no direction, are those of
      no connector. -/
  | invalidConnector {before run behind : List Token} {ks : List String}
    (htokens : tokens = before ++ (run ++ behind)) (hks : ArePhrase run ks) (hne : ks ≠ [])
    (hbefore : ∀ t ∈ before.getLast?, ¬isWord t) (hbehind : Stops isWord behind)
    (hsentence : IsSentence (before.map Token.kind ++ [.eof]))
    (hnone : ∀ k, ¬Connector.Spells ks k) : Locates tokens (.invalidConnector (" ".intercalate ks))

section Read

variable {source : String} {before rest : List Token} {fault : Fault}

/-- The end is not read before a part which has to come next. -/
theorem Awaits.eof_notMem {read : List Token.Kind} {part : Part} (h : Awaits read part) :
    .eof ∉ read := by
  obtain ⟨k, more, -, xs, hxs, heq⟩ := h.exists_isSentence
  -- A chain which goes on has its end behind what was read.
  have hdrop := congrArg List.dropLast heq
  rw [List.dropLast_append_cons, List.dropLast_concat] at hdrop
  intro hmem
  have hmem' : Token.Kind.eof ∈ xs.flatMap Shape.kinds := hdrop ▸ List.mem_append_left _ hmem
  obtain ⟨x, hx, hk⟩ := List.mem_flatMap.1 hmem'
  exact (hxs.fits x hx).ne_eof _ hk rfl

theorem locates_expected {part : Part} (htokens : Token.ofSource source = before ++ rest)
    (h : Awaits (before.map Token.kind) part)
    (hrest : ∀ t ∈ rest.head?, ¬part.Takes (before.map Token.kind) t.kind) :
    (expected part rest).Locates (Token.ofSource source) := by
  rcases rest with - | ⟨t, behind⟩
  -- The end is still to be read.
  · obtain ⟨ts, hts, -⟩ := (Cursor.ofSource source).exists_tokens_eq
    have hbefore : before = ts ++ [_] := (htokens.symm.trans hts).symm ▸ (List.append_nil _).symm
    refine absurd ?_ h.eof_notMem
    simp [hbefore]
  · refine .expected htokens (Token.column_ne_of_ofSource htokens) h.exists_isSentence ?_
    exact fun more hs => hrest t rfl (h.takes_of_isSentence hs)

/-- A clause which is not found breaks off at a token which fits no chain. -/
theorem locates_of_readClause {c : Option String}
    (htokens : Token.ofSource source = before ++ rest)
    (hbefore : before.map Token.kind = xs.flatMap Shape.kinds ++ phraseKinds ks)
    (h : Continues xs ks) (hstops : before ≠ [] → Stops isWord rest)
    (hread : readClause c rest = .error fault) : fault.Locates (Token.ofSource source) := by
  simp only [readClause, bind_eq_error_iff, Prod.exists, readOperand_eq_error_iff,
    readOperand_eq_ok_iff, readPhrase_eq_error_iff, readPhrase_eq_ok_iff] at hread
  rcases hread with ⟨hl, rfl⟩ | ⟨_, rest₁, ⟨l, rfl, hl, rfl⟩, ⟨hw, rfl⟩ |
    ⟨_, rest₂, ⟨wts, ws, rfl, hws, hne, hw, rfl⟩, ⟨hr, rfl⟩ | ⟨_, _, -, h⟩⟩⟩
  · refine locates_expected htokens (hbefore ▸ .left h) fun t ht => ?_
    rintro (hk | ⟨hread, hk⟩)
    · exact hl t ht hk
    · exact hstops (by simpa using hread) t ht hk
  · have htokens' : Token.ofSource source = before ++ [l] ++ rest₁ := by simpa using htokens
    refine locates_expected htokens' ?_ fun t ht => hw t ht
    rw [List.map_append, hbefore, List.append_assoc]
    exact .operator h hl
  · have htokens' : Token.ofSource source = before ++ l :: wts ++ rest₂ := by simpa using htokens
    have hbefore' : (before ++ l :: wts).map Token.kind =
        xs.flatMap Shape.kinds ++ (phraseKinds ks ++ l.kind :: phraseKinds ws) := by
      rw [List.map_append, hbefore, List.append_assoc, List.map_cons, hws]
    refine locates_expected htokens' (hbefore' ▸ .right h hl hne) fun t ht => ?_
    rintro (hk | ⟨-, hk⟩)
    · exact hr t ht hk
    · exact hw t ht hk
  · cases h

/-- The words of a source are words. -/
theorem areWords_of_append {ts : List Token} {ws : List String}
    (htokens : Token.ofSource source = before ++ (ts ++ rest)) (hws : ArePhrase ts ws) :
    AreWords ws := by
  have hmem : ∀ t ∈ ts, t ∈ (Cursor.ofSource source).tokens := by
    intro t ht
    change t ∈ Token.ofSource source
    rw [htokens]
    exact List.mem_append_right _ (List.mem_append_left _ ht)
  exact ClauseText.areWords_of_arePhrase hws hmem

/-- Behind a chain, there are words which are no connector, or a token which is no word and not the
    end. -/
theorem locates_of_readConnector (htokens : Token.ofSource source = before ++ rest)
    (hbefore : before.map Token.kind = xs.flatMap Shape.kinds) (h : AreChain xs)
    (hend : ¬atEnd rest) (hread : readConnector rest = .error fault) :
    fault.Locates (Token.ofSource source) := by
  rcases readConnector_eq_error_iff.1 hread with ⟨hw, rfl⟩ |
    ⟨kts, ks, behind, rfl, hkts, hne, hw, hnone, rfl⟩
  · refine locates_expected htokens (hbefore ▸ .connector h) fun t ht => ?_
    rintro (hword | heof)
    · exact hw t ht hword
    · obtain ⟨behind, rfl⟩ := List.head?_eq_some_iff.1 ht
      exact hend (by simp [atEnd, heof])
  · have hks := areWords_of_append htokens hkts
    refine .invalidConnector htokens hkts hne (fun t ht => ?_) hw ⟨xs, h, by rw [hbefore]⟩
      fun k hk => hnone k ((Connector.read_eq_ok_iff hks).2 hk)
    -- The last token of the chain is an operand, so that the words begin behind it.
    obtain ⟨kinds, r, hxs, hr⟩ := h.exists_eq_concat
    have hlast := congrArg List.getLast? (hbefore.trans hxs)
    rw [List.getLast?_map, ht, Option.map_some, List.getLast?_concat, Option.some.injEq] at hlast
    exact not_isWord_of_isOperand (hlast ▸ hr)

/-- A chain which goes on behind some clauses breaks off in the first clause which is not found, or
    at its connector. -/
theorem locates_of_readRest {before rest : List Token} {xs : List Shape}
    (htokens : Token.ofSource source = before ++ rest)
    (hbefore : before.map Token.kind = xs.flatMap Shape.kinds) (h : AreChain xs)
    (hread : readRest rest = .error fault) : fault.Locates (Token.ofSource source) := by
  rw [readRest] at hread
  split at hread
  · cases hread
  next hend =>
  split at hread
  · next fault' hk =>
    cases hread
    exact locates_of_readConnector htokens hbefore h hend hk
  · next k rest₁ hk =>
    have hle := readConnector_rest_le hk
    obtain ⟨kts, ks, k', rfl, hkts, hne, hw, rfl, hk'⟩ := readConnector_eq_ok_iff.1 hk
    have hks := (Connector.read_eq_ok_iff (areWords_of_append htokens hkts)).1 hk'
    split at hread
    · next fault' hc =>
      cases hread
      have htokens' : Token.ofSource source = before ++ kts ++ rest₁ := by simpa using htokens
      refine locates_of_readClause htokens' ?_ (.joined h hks) (fun _ => hw) hc
      rw [List.map_append, hbefore, hkts]
    · next c rest₂ hc =>
      have hlt := readClause_rest_lt hc
      obtain ⟨-, cts, l, wts, ws, r, rfl, hcts⟩ := readClause_eq_ok_iff.1 hc
      have htokens' : Token.ofSource source = before ++ (kts ++ cts) ++ rest₂ := by
        simpa using htokens
      have hchain := (Continues.joined h hks).areChain hcts.left hcts.ne_nil hcts.right
      refine locates_of_readRest htokens' ?_ hchain (map_eq_error_iff.1 hread)
      have hkts' : kts.map Token.kind = phraseKinds ks := hkts
      have hwts : wts.map Token.kind = phraseKinds ws := hcts.phrase
      simp [hbefore, hkts', hcts.tokens_eq, hwts, Shape.kinds]
termination_by rest.length

theorem locates_of_read (h : read (Token.ofSource source) = .error fault) :
    fault.Locates (Token.ofSource source) := by
  rw [read, bind_eq_error_iff] at h
  rcases h with h | ⟨⟨c, rest⟩, hc, h⟩
  · have htokens : Token.ofSource source = [] ++ Token.ofSource source := rfl
    exact locates_of_readClause htokens rfl .first (by simp) h
  · obtain ⟨-, cts, l, wts, ws, r, htokens, hcts⟩ := readClause_eq_ok_iff.1 hc
    rcases bind_eq_error_iff.1 h with h | ⟨cs, -, h⟩
    · have hchain := Continues.first.areChain hcts.left hcts.ne_nil hcts.right
      refine locates_of_readRest htokens ?_ hchain h
      have hwts : wts.map Token.kind = phraseKinds ws := hcts.phrase
      simp [hcts.tokens_eq, hwts, Shape.kinds, phraseKinds]
    · cases h

/-- A text is read as a chain just if its tokens are one. -/
theorem exists_read_iff_isSentence : (∃ texts, read (Token.ofSource source) = .ok texts) ↔
    IsSentence (Token.kinds source.toList) := by
  constructor
  · rintro ⟨texts, h⟩
    obtain ⟨shapes, hshapes, -⟩ := Statement.exists_isChainOf h
    exact ⟨shapes, hshapes⟩
  · rintro ⟨shapes, hchain, hkinds⟩
    have hof : Statement.IsChainOf source shapes := ⟨hchain, hkinds⟩
    obtain ⟨texts, htexts, -⟩ := hof.exists_read
    exact ⟨texts, htexts⟩

end Read

end Chain

/-- A predicate is read just if its tokens are a chain. Otherwise the message says where they break
    off: at the first token with which no chain goes on, or at words which are no connector. The
    predicate is so short that its columns can be counted in 32 bits. -/
theorem Statement.locates_of_readPredicate {predicate : String}
    (hsize : predicate.length < UInt32.size - 1) :
    (∀ t ∈ Token.ofSource predicate, t.span.column < UInt32.size) ∧
    ((∃ texts, readPredicate predicate = .ok texts) ↔
      Chain.IsSentence (Token.kinds predicate.toList)) ∧
    ∀ err, readPredicate predicate = .error err → ∃ fault : Chain.Fault,
      err = { cause := .malformedPredicate predicate predicatePattern fault.message } ∧
        fault.Locates (Token.ofSource predicate) := by
  refine ⟨fun t => Token.column_lt_of_ofSource hsize, ?_, fun err h => ?_⟩
  · simp only [readPredicate_eq_ok_iff, Chain.exists_read_iff_isSentence]
  · obtain ⟨fault, hread, rfl⟩ := readPredicate_eq_error_iff.1 h
    exact ⟨fault, rfl, Chain.locates_of_read hread⟩

/-- A name stands where an operand should, behind a tab. -/
def Statement.brokenOff : String := "a.time IS 1 AND\tb IS 2"

theorem Statement.locates_of_readPredicate_brokenOff :
    let message := "expected operand, found name b at column 17"
    brokenOff.length < UInt32.size - 1 ∧ readPredicate brokenOff =
        .error { cause := .malformedPredicate brokenOff predicatePattern message } ∧
      ¬Chain.IsSentence (Token.kinds brokenOff.toList) ∧
      ∃ fault : Chain.Fault, fault.message = message ∧
        fault.Locates (Token.ofSource brokenOff) := by
  intro message
  have h : readPredicate brokenOff =
      .error { cause := .malformedPredicate brokenOff predicatePattern message } := by
    decide +kernel
  have hsize : brokenOff.length < UInt32.size - 1 := by decide +kernel
  obtain ⟨-, hiff, hlocates⟩ := locates_of_readPredicate hsize
  obtain ⟨fault, heq, hfault⟩ := hlocates _ h
  refine ⟨hsize, h, fun hs => ?_, fault, ?_, hfault⟩
  · obtain ⟨texts, htexts⟩ := hiff.2 hs
    cases h.symm.trans htexts
  · simpa using heq.symm

end Interlock
