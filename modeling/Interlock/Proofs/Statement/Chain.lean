import Interlock.Proofs.Result
import Interlock.Proofs.Statement.Grammar

/-!
# Reading chains of clauses

The clauses of a sequence of tokens are found by looking one token ahead: words are taken as long as
they come, and operands one by one. What is found are the parts of clauses, as they were written;
what they mean does not matter yet.

* `Chain.readPhrase_eq_ok_iff`, `Chain.readOperand_eq_ok_iff`, `Chain.readConnector_eq_ok_iff`: the
  tokens of one part. `Chain.readPhrase_eq_error_iff`, `Chain.readOperand_eq_error_iff`,
  `Chain.readConnector_eq_error_iff`: what stands there if it is none.
* `Chain.Covers`: the tokens of the parts of a clause. `Chain.read_eq_ok_iff`: a chain is found just
  where the tokens are those of clauses, one after the other.
-/

namespace Interlock

open Text

namespace Chain

/-! ## Phrases and operands -/

/-- The token is a word. -/
def isWord (t : Token) : Bool := t.kind.word?.isSome

/-- Some tokens are the given words. -/
def ArePhrase (ts : List Token) (ws : List String) : Prop := ts.map Token.kind = phraseKinds ws

theorem takeWords_append {wts rest : List Token} {ws : List String} (h : ArePhrase wts ws)
    (hr : Stops isWord rest) : takeWords (wts ++ rest) = (ws, rest) := by
  induction wts generalizing ws with
  | nil =>
    obtain rfl : ws = [] := by simpa [ArePhrase, phraseKinds] using h.symm
    rcases rest with - | ⟨t, rest⟩
    · rfl
    · have hw : t.kind.word? = none := by simpa [isWord] using hr
      rw [List.nil_append, takeWords]
      split
      · next heq => simp [heq, Token.Kind.word?] at hw
      · rfl
  | cons t wts ih =>
    rcases ws with - | ⟨w, ws⟩
    · cases h
    · obtain ⟨ht, hts⟩ := List.cons.inj h
      rw [List.cons_append, takeWords, ht, ih hts]

theorem exists_takeWords (ts : List Token) : ∃ wts, ts = wts ++ (takeWords ts).2 ∧
    ArePhrase wts (takeWords ts).1 ∧ Stops isWord (takeWords ts).2 := by
  obtain ⟨wts, rest, rfl, hw, hr⟩ := exists_run isWord ts
  have hws : ∃ ws, ArePhrase wts ws := by
    clear hr
    induction wts with
    | nil => exact ⟨[], rfl⟩
    | cons t wts ih =>
      rw [List.forall_mem_cons] at hw
      obtain ⟨ws, hws⟩ := ih hw.2
      obtain ⟨w, hw⟩ := Option.isSome_iff_exists.1 hw.1
      refine ⟨w :: ws, ?_⟩
      have ht : t.kind = .word w := by
        unfold Token.Kind.word? at hw
        split at hw <;> cases hw
        assumption
      exact congrArg₂ _ ht hws
  obtain ⟨ws, hws⟩ := hws
  rw [takeWords_append hws hr]
  exact ⟨wts, rfl, hws, hr⟩

theorem readPhrase_eq_ok_iff {part : Part} {ts rest : List Token} {phrase : String} :
    readPhrase part ts = .ok (phrase, rest) ↔ ∃ wts ws, ts = wts ++ rest ∧ ArePhrase wts ws ∧
      ws ≠ [] ∧ Stops isWord rest ∧ phrase = " ".intercalate ws := by
  constructor
  · intro h
    obtain ⟨wts, hts, hws, hr⟩ := exists_takeWords ts
    rw [readPhrase] at h
    split at h
    · cases h
    · next ws rest' hne heq =>
      rw [heq] at hts hws hr
      cases h
      exact ⟨wts, ws, hts, hws, hne, hr, rfl⟩
  · rintro ⟨wts, ws, rfl, hws, hne, hr, rfl⟩
    rw [readPhrase, takeWords_append hws hr]
    rcases ws with - | ⟨w, ws⟩
    · exact absurd rfl hne
    · rfl

theorem readOperand_eq_ok_iff {ts rest : List Token} {text : String} :
    readOperand ts = .ok (text, rest) ↔ ∃ t, ts = t :: rest ∧ t.kind.isOperand ∧ t.text = text := by
  constructor
  · intro h
    rcases ts with - | ⟨t, ts⟩
    · cases h
    · rw [readOperand] at h
      split at h
      · next ht =>
        cases h
        exact ⟨t, rfl, ht, rfl⟩
      · cases h
  · rintro ⟨t, rfl, ht, rfl⟩
    rw [readOperand, if_pos ht]

theorem readConnector_eq_ok_iff {ts rest : List Token} {phrase : String} :
    readConnector ts = .ok (phrase, rest) ↔ ∃ kts ks k, ts = kts ++ rest ∧ ArePhrase kts ks ∧
      ks ≠ [] ∧ Stops isWord rest ∧ phrase = " ".intercalate ks ∧
      Connector.read phrase = .ok k := by
  rw [readConnector, bind_eq_ok_iff]
  constructor
  · rintro ⟨⟨p, r⟩, hp, h⟩
    obtain ⟨kts, ks, hts, hks, hne, hr, he⟩ := readPhrase_eq_ok_iff.1 hp
    rcases hk : Connector.read p with e | k
    · simp [hk] at h
    · simp only [hk] at h
      cases h
      exact ⟨kts, ks, k, hts, hks, hne, hr, he, hk⟩
  · rintro ⟨kts, ks, k, hts, hks, hne, hr, he, hk⟩
    refine ⟨(phrase, rest), readPhrase_eq_ok_iff.2 ⟨kts, ks, hts, hks, hne, hr, he⟩, ?_⟩
    simp only [hk]

theorem readPhrase_eq_error_iff {part : Part} {ts : List Token} {fault : Fault} :
    readPhrase part ts = .error fault ↔ Stops isWord ts ∧ fault = expected part ts := by
  obtain ⟨wts, hts, hws, hr⟩ := exists_takeWords ts
  rw [readPhrase]
  split
  -- No words were taken, so what was left stands at the head.
  · next rest heq =>
    rw [heq] at hts hws hr
    obtain rfl : wts = [] := List.map_eq_nil_iff.1 hws
    rw [hts, List.nil_append]
    constructor
    · rintro ⟨⟩
      exact ⟨hr, rfl⟩
    · rintro ⟨-, rfl⟩
      rfl
  · next ws rest hne heq =>
    rw [heq] at hts hws
    refine iff_of_false (by simp) ?_
    rintro ⟨hstops, -⟩
    rcases wts with - | ⟨t, wts⟩
    · exact absurd hws.symm (by simpa [phraseKinds] using hne)
    · obtain ⟨w, ws', rfl⟩ := List.exists_cons_of_ne_nil hne
      have ht : t.kind = .word w := (List.cons.inj hws).1
      rw [hts, List.cons_append, stops_cons, isWord, ht] at hstops
      exact absurd rfl hstops

theorem readOperand_eq_error_iff {ts : List Token} {fault : Fault} :
    readOperand ts = .error fault ↔
      (∀ t ∈ ts.head?, ¬t.kind.isOperand) ∧ fault = expected .operand ts := by
  rcases ts with - | ⟨t, ts⟩
  · rw [readOperand, Except.error.injEq, eq_comm]
    simp
  · rw [readOperand]
    split
    · next ht => simp [ht]
    · next ht =>
      rw [Except.error.injEq, eq_comm]
      simp [ht]

theorem readConnector_eq_error_iff {ts : List Token} {fault : Fault} :
    readConnector ts = .error fault ↔ Stops isWord ts ∧ fault = expected .connector ts ∨
      ∃ kts ks rest, ts = kts ++ rest ∧ ArePhrase kts ks ∧ ks ≠ [] ∧ Stops isWord rest ∧
        (∀ k, Connector.read (" ".intercalate ks) ≠ .ok k) ∧
        fault = .invalidConnector (" ".intercalate ks) := by
  rw [readConnector, bind_eq_error_iff, readPhrase_eq_error_iff]
  refine or_congr_right ?_
  constructor
  · rintro ⟨⟨p, r⟩, hp, h⟩
    obtain ⟨kts, ks, hts, hks, hne, hr, rfl⟩ := readPhrase_eq_ok_iff.1 hp
    rcases hk : Connector.read (" ".intercalate ks) with e | k
    · simp only [hk] at h
      cases h
      exact ⟨kts, ks, r, hts, hks, hne, hr, by simp [hk], rfl⟩
    · simp [hk] at h
  · rintro ⟨kts, ks, rest, hts, hks, hne, hr, hnone, rfl⟩
    refine ⟨(_, rest), readPhrase_eq_ok_iff.2 ⟨kts, ks, hts, hks, hne, hr, rfl⟩, ?_⟩
    rcases hk : Connector.read (" ".intercalate ks) with e | k
    · simp only [hk]
    · exact absurd hk (hnone k)

/-! ## Clauses -/

/-- The tokens of a comparison as it was written. -/
structure Compares (c : ClauseText) (ts : List Token) (l : Token) (wts : List Token)
    (ws : List String) (r : Token) : Prop where
  tokens_eq : ts = l :: (wts ++ [r])
  left : l.kind.isOperand
  phrase : ArePhrase wts ws
  ne_nil : ws ≠ []
  right : r.kind.isOperand
  text_eq : (c.left, c.operator, c.right) = (l.text, " ".intercalate ws, r.text)

/-- The tokens of the parts of a clause. -/
inductive Covers : ClauseText → List Token → Prop
  | first {c : ClauseText} {ts wts : List Token} {l r : Token} {ws : List String}
    (hk : c.connector = none) (h : Compares c ts l wts ws r) : Covers c ts
  | joined {c : ClauseText} {kts ts wts : List Token} {l r : Token} {ks ws : List String}
    {k : Connector} (hk : c.connector = some (" ".intercalate ks)) (hkts : ArePhrase kts ks)
    (hne : ks ≠ []) (hread : Connector.read (" ".intercalate ks) = .ok k)
    (h : Compares c ts l wts ws r) : Covers c (kts ++ ts)

theorem not_isWord_of_isOperand {t : Token} (h : t.kind.isOperand) : ¬isWord t := by
  unfold Token.Kind.isOperand at h
  split at h <;> simp_all [isWord, Token.Kind.word?]

theorem readClause_eq_ok_iff {k : Option String} {ts rest : List Token} {c : ClauseText} :
    readClause k ts = .ok (c, rest) ↔ c.connector = k ∧
      ∃ cts l wts ws r, ts = cts ++ rest ∧ Compares c cts l wts ws r := by
  -- Words are taken as long as they come. An operand is no word, so they end where it stands.
  simp only [readClause, bind_eq_ok_iff, Prod.exists, readOperand_eq_ok_iff, readPhrase_eq_ok_iff]
  constructor
  · rintro ⟨_, _, ⟨l, rfl, hl, rfl⟩, _, _, ⟨wts, ws, rfl, hw, hne, -, rfl⟩, _, _,
      ⟨r, rfl, hr, rfl⟩, h⟩
    cases h
    exact ⟨rfl, _, l, wts, ws, r, by simp, rfl, hl, hw, hne, hr, rfl⟩
  · rintro ⟨rfl, cts, l, wts, ws, r, rfl, rfl, hl, hw, hne, hr, htext⟩
    obtain ⟨hleft, hop, hright⟩ : c.left = l.text ∧ c.operator = " ".intercalate ws ∧
      c.right = r.text := by simpa using htext
    refine ⟨c.left, wts ++ r :: rest, ⟨l, by simp, hl, hleft.symm⟩, c.operator, r :: rest,
      ⟨wts, ws, rfl, hw, hne, stops_cons.2 (not_isWord_of_isOperand hr), hop⟩, c.right, rest,
      ⟨r, rfl, hr, hright.symm⟩, rfl⟩

theorem Compares.stops {c : ClauseText} {ts wts : List Token} {l r : Token} {ws : List String}
    (h : Compares c ts l wts ws r) (rest : List Token) : Stops isWord (ts ++ rest) := by
  rw [h.tokens_eq]
  exact stops_cons.2 (not_isWord_of_isOperand h.left)

/-! ## Chains -/

theorem not_atEnd_of_arePhrase {ts : List Token} {ws : List String} (h : ArePhrase ts ws)
    (hne : ws ≠ []) (rest : List Token) : ¬atEnd (ts ++ rest) := by
  rcases ts with - | ⟨t, ts⟩
  · exact absurd (List.map_eq_nil_iff.1 h.symm) hne
  · obtain ⟨w, ws, rfl⟩ := List.exists_cons_of_ne_nil hne
    have ht : t.kind = .word w := (List.cons.inj h).1
    simp [atEnd, ht]

theorem readRest_of_readClause {ts rest rest' : List Token} {k : String} {c : ClauseText}
    (hend : ¬atEnd ts) (hk : readConnector ts = .ok (k, rest))
    (hc : readClause (some k) rest = .ok (c, rest')) :
    readRest ts = (readRest rest').map (c :: ·) := by
  rw [readRest, if_neg hend]
  split
  · next heq => cases hk.symm.trans heq
  · next heq =>
    cases hk.symm.trans heq
    split
    · next heq' => cases hc.symm.trans heq'
    · next heq' =>
      cases hc.symm.trans heq'
      rfl

/-- The clauses which are found behind a first one have connectors, and their tokens follow each
    other up to the end. -/
theorem exists_covers_of_readRest {ts : List Token} {cs : List ClauseText}
    (h : readRest ts = .ok cs) : (∀ c ∈ cs, c.connector ≠ none) ∧
      ∃ parts rest, List.Forall₂ Covers cs parts ∧ ts = parts.flatten ++ rest ∧ atEnd rest := by
  rw [readRest] at h
  split at h
  · next hend =>
    cases h
    exact ⟨by simp, [], ts, .nil, rfl, hend⟩
  · split at h
    · cases h
    · next k rest hk =>
      split at h
      · cases h
      · next c rest' hc =>
        obtain ⟨cs', hcs, rfl⟩ := map_eq_ok_iff.1 h
        -- The connector and the clause have taken tokens away, so fewer are left.
        have hlt := readConnector_rest_le hk
        have hlt' := readClause_rest_lt hc
        obtain ⟨hall, parts, rest, hparts, rfl, hend⟩ := exists_covers_of_readRest hcs
        obtain ⟨kts, ks, k', rfl, hkts, hne, -, rfl, hread⟩ := readConnector_eq_ok_iff.1 hk
        obtain ⟨hck, cts, l, wts, ws, r, rfl, hcts⟩ := readClause_eq_ok_iff.1 hc
        refine ⟨List.forall_mem_cons.2 ⟨by simp [hck], hall⟩, (kts ++ cts) :: parts, rest,
          .cons (.joined hck hkts hne hread hcts) hparts, by simp, hend⟩
termination_by ts.length

/-- Clauses with connectors are found again in their tokens. -/
theorem readRest_flatten_append {cs : List ClauseText} {parts : List (List Token)}
    {rest : List Token} (h : List.Forall₂ Covers cs parts) (hall : ∀ c ∈ cs, c.connector ≠ none)
    (hend : atEnd rest) : readRest (parts.flatten ++ rest) = .ok cs := by
  induction h with
  | nil => rw [List.flatten_nil, List.nil_append, readRest, if_pos hend]
  | @cons c part cs parts hcover hparts ih =>
    rw [List.forall_mem_cons] at hall
    rcases hcover with ⟨hk, -⟩ | ⟨hck, hkts, hne, hread, hcts⟩
    · exact absurd hk hall.1
    · next kts ts wts l r ks ws k =>
      have hrest := ih hall.2
      rw [List.flatten_cons, List.append_assoc, List.append_assoc]
      have hend' : ¬atEnd (kts ++ (ts ++ (parts.flatten ++ rest))) :=
        not_atEnd_of_arePhrase hkts hne _
      have hkw := readConnector_eq_ok_iff.2
        ⟨kts, ks, k, rfl, hkts, hne, hcts.stops (parts.flatten ++ rest), rfl, hread⟩
      have hct : readClause (some (" ".intercalate ks)) (ts ++ (parts.flatten ++ rest)) =
          .ok (c, parts.flatten ++ rest) :=
        readClause_eq_ok_iff.2 ⟨hck, ts, l, wts, ws, r, rfl, hcts⟩
      rw [readRest_of_readClause hend' hkw hct, hrest]
      rfl

/-- The tokens of a chain of clauses, the first of which has no connector. -/
theorem read_eq_ok_iff {ts : List Token} {cs : List ClauseText} :
    read ts = .ok cs ↔ (∃ c cs', cs = c :: cs' ∧ c.connector = none ∧
        ∀ d ∈ cs', d.connector ≠ none) ∧
      ∃ parts rest, List.Forall₂ Covers cs parts ∧ ts = parts.flatten ++ rest ∧ atEnd rest := by
  rw [read, bind_eq_ok_iff]
  simp only [Prod.exists, bind_eq_ok_iff, readClause_eq_ok_iff]
  constructor
  · rintro ⟨c, _, ⟨hk, cts, l, wts, ws, r, rfl, hcts⟩, cs', hcs, h⟩
    cases h
    obtain ⟨hall, parts, rest, hparts, rfl, hend⟩ := exists_covers_of_readRest hcs
    exact ⟨⟨c, cs', rfl, hk, hall⟩, cts :: parts, rest, .cons (.first hk hcts) hparts, by simp,
      hend⟩
  · rintro ⟨⟨c, cs', rfl, hk, hall⟩, _, rest, hcover, rfl, hend⟩
    rcases hcover with - | ⟨hc, hparts⟩
    rcases hc with ⟨-, hcts⟩ | ⟨hck, -⟩
    · next ts parts wts l r ws =>
      exact ⟨c, parts.flatten ++ rest, ⟨hk, ts, l, wts, ws, r, by simp, hcts⟩, cs',
        readRest_flatten_append hparts hall hend, rfl⟩
    · cases hck.symm.trans hk

end Chain

end Interlock
