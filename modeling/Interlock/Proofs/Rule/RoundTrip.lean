import Interlock.Proofs.Rule.Evaluation
import Interlock.Proofs.Statement.Acceptance

/-!
# Rules and their texts

A rule is rendered as a statement. What is read of this statement is the rule again, unless its
names are no names, or refer to nothing, or are the same; or a literal cannot be written; or a
clause is ill typed. None of this happens to a rule which was itself read of a statement.

* `Rule.WellFormed`: the rules which are read back.
* `kinds_render_operand`, `kinds_render_clause`, `kinds_render_predicate`: the tokens of a rendered
  text spell what was rendered.
* `Rule.read_eq_ok_iff_writtenAs`: blanks around a statement do not matter.
* `Rule.WellFormed.read_render`: a well-formed rule is read back. `Rule.wellFormed_of_read`: what is
  read is well formed.

So just the well-formed rules are read back.
-/

namespace Interlock

open Text

/-! ## Well-formed rules -/

/-- The literal of the value is a literal: a number has no sign, a string holds something, and only
    what it may. -/
def Value.IsWritable : Value → Prop
  | .number n => 0 ≤ n.toInt
  | .string s => s ≠ "" ∧ ∀ c ∈ s.toList, Token.isStringChar c
  | .vertex _ | .edge _ => False

/-- The operand is a reference, or its literal can be written. -/
def Operand.IsWritable : Operand → Prop
  | .literal v => v.IsWritable
  | .reference _ _ => True

/-- The statement of the rule spells the rule. -/
structure Rule.WellFormed (r : Rule) : Prop where
  requesting : Token.isName r.requesting.toList
  restricting : ∀ n ∈ r.restricting, Token.isName n.toList
  wellNamed : r.WellNamed
  writable : ∀ c ∈ r.predicate.clauses, c.left.IsWritable ∧ c.right.IsWritable
  wellTyped : ∀ c ∈ r.predicate.clauses, c.WellTyped

theorem Rule.WellFormed.checked {r : Rule} (h : r.WellFormed) : r.Checked :=
  ⟨h.wellTyped, h.wellNamed.declared⟩

/-- The names to which an operand refers are names. -/
def Operand.IsNamed (o : Operand) : Prop := ∀ n ∈ o.name?, Token.isName n.toList

theorem Rule.WellFormed.isNamed {r : Rule} (h : r.WellFormed) {c : Clause}
    (hc : c ∈ r.predicate.clauses) : c.left.IsNamed ∧ c.right.IsNamed := by
  have hname : ∀ n ∈ c.names, Token.isName n.toList := by
    intro n hn
    rcases h.wellNamed.declared c hc n hn with rfl | hn
    · exact h.requesting
    · exact h.restricting n hn
  constructor
  · intro n hn
    exact hname n (List.mem_append_left _ (by simpa using hn))
  · intro n hn
    exact hname n (List.mem_append_right _ (by simpa using hn))

/-! ## Rendered texts -/

theorem kinds_word {w : String} (h : (Token.Kind.word w).WellFormed) {rest : List Char}
    (hrest : Stops Token.isBare rest) :
    Token.kinds (w.toList ++ rest) = .word w :: Token.kinds rest := by
  have hne : w.toList ≠ [] := by simpa using h.1
  rw [Token.kinds_run hne (fun c hc => Token.isBare_of_isUpper (h.2 c hc)) hrest,
    Token.classify_isUpper h.2, String.ofList_toList]

theorem kinds_name {n : String} (h : Token.isName n.toList) {rest : List Char}
    (hrest : Stops Token.isBare rest) :
    Token.kinds (n.toList ++ rest) = .name n :: Token.kinds rest := by
  obtain ⟨hne, hlower⟩ := Token.isName_iff.1 h
  rw [Token.kinds_run hne (fun c hc => Token.isBare_of_isLower (hlower c hc)) hrest,
    Token.classify_name h, String.ofList_toList]

/-- Without a sign, a number is a run of digits. -/
theorem kinds_number {n : Int64} (h : 0 ≤ n.toInt) {rest : List Char}
    (hrest : Stops Token.isBare rest) :
    Token.kinds (n.toInt.repr.toList ++ rest) = .int n :: Token.kinds rest := by
  have hdigits := Text.isDigit_of_mem_repr h
  rw [Token.kinds_run (Text.isDecimal_repr _).ne_nil
      (fun c hc => Token.isBare_of_isDigit (hdigits c hc)) hrest,
    Token.classify_isDigit (Text.isDecimal_repr _).ne_nil hdigits (Text.int64?_repr n)]

/-- Two names with a dot between them are one run. -/
theorem kinds_reference {n f : String} (hn : Token.isName n.toList) (hf : Token.isName f.toList)
    {rest : List Char} (hrest : Stops Token.isBare rest) :
    Token.kinds (n.toList ++ '.' :: f.toList ++ rest) = .reference n f :: Token.kinds rest := by
  have hbare : ∀ c ∈ n.toList ++ '.' :: f.toList, Token.isBare c := by
    intro c hc
    rcases List.mem_append.1 hc with hc | hc
    · exact Token.isBare_of_isLower ((Token.isName_iff.1 hn).2 c hc)
    · rcases List.mem_cons.1 hc with rfl | hc
      · decide
      · exact Token.isBare_of_isLower ((Token.isName_iff.1 hf).2 c hc)
  rw [Token.kinds_run (by simp) hbare hrest, Token.classify_reference hn hf, String.ofList_toList,
    String.ofList_toList]

theorem stops_space (rest : List Char) : Stops Token.isBare (' ' :: rest) :=
  stops_cons.2 (by decide)

/-- The words of a phrase are found again behind each other. -/
theorem kinds_phrase {ws : List String} (h : AreWords ws) (hne : ws ≠ []) (rest : List Char) :
    Token.kinds ((" ".intercalate ws).toList ++ ' ' :: rest) =
      phraseKinds ws ++ Token.kinds rest := by
  induction ws with
  | nil => exact absurd rfl hne
  | cons w ws ih =>
    have hw := h w List.mem_cons_self
    rcases ws with - | ⟨v, ws⟩
    · rw [String.intercalate_singleton, kinds_word hw (stops_space rest), Token.kinds_space]
      rfl
    · have hws : AreWords (v :: ws) := fun x hx => h x (List.mem_cons_of_mem _ hx)
      rw [String.intercalate_cons_cons, String.toList_append, String.toList_append,
        List.append_assoc, List.append_assoc]
      change Token.kinds
        (w.toList ++ ' ' :: ((" ".intercalate (v :: ws)).toList ++ ' ' :: rest)) = _
      rw [kinds_word hw (stops_space _), Token.kinds_space, ih hws (by simp)]
      rfl

/-- The canonical phrase of a comparison spells it. -/
theorem Comparison.exists_phrase_eq (c : Comparison) (n : Bool) :
    ∃ ws, Spells ws c n ∧ AreWords ws ∧ c.phrase n = " ".intercalate ws := by
  rcases c with _ | _ | _ | _ <;> rcases n with _ | _
  · exact ⟨_, .is, by decide, rfl⟩
  · exact ⟨_, .isNot, by decide, rfl⟩
  · exact ⟨_, .lessThan true false, by decide, rfl⟩
  · exact ⟨_, .lessThan true true, by decide, rfl⟩
  · exact ⟨_, .moreThan true false, by decide, rfl⟩
  · exact ⟨_, .moreThan true true, by decide, rfl⟩
  · exact ⟨_, .overlapsWith false, by decide, rfl⟩
  · exact ⟨_, .overlapsWith true, by decide, rfl⟩

/-- The text of a connector spells it. -/
theorem Connector.exists_render_eq (k : Connector) :
    ∃ ks, Spells ks k ∧ AreWords ks ∧ k.render = " ".intercalate ks := by
  rcases k with ⟨_ | _, _ | _⟩
  · exact ⟨_, .and, by decide, rfl⟩
  · exact ⟨_, .andNot, by decide, rfl⟩
  · exact ⟨_, .or, by decide, rfl⟩
  · exact ⟨_, .orNot, by decide, rfl⟩

/-- The text of an operand is a token which spells the operand. -/
theorem kinds_render_operand {o : Operand} (h : o.IsWritable) (hn : o.IsNamed) :
    ∃ k, Operand.Spells k o ∧ ∀ rest, Stops Token.isBare rest →
      Token.kinds (o.render.toList ++ rest) = k :: Token.kinds rest := by
  rcases o with (s | i | v | e) | ⟨n, f⟩
  · refine ⟨.str s, .string s, fun rest _ => ?_⟩
    have hne : s.toList ≠ [] := by simpa using h.1
    simpa [Operand.render, Value.render] using Token.kinds_literal hne h.2 rest
  · exact ⟨.int i, .number i, fun rest hrest => kinds_number h hrest⟩
  · exact h.elim
  · exact h.elim
  · have hfield : Token.isName f.spelling.toList := by cases f <;> decide
    have htext :
        (Operand.render (.reference n f)).toList = n.toList ++ '.' :: f.spelling.toList := by
      simp [Operand.render]
    refine ⟨.reference n f.spelling, .reference (Field.ofSpelling?_spelling f), ?_⟩
    intro rest hrest
    rw [htext, kinds_reference (hn n rfl) hfield hrest]

/-- A clause which can be rendered so that it is read back. -/
structure Clause.IsWritable (c : Clause) : Prop where
  writable : c.left.IsWritable ∧ c.right.IsWritable
  named : c.left.IsNamed ∧ c.right.IsNamed
  wellTyped : c.WellTyped

/-- The text of a clause has the tokens which spell the clause. -/
theorem kinds_render_clause {c : Clause} (h : c.IsWritable) :
    ∃ ks, Clause.Spells ks c ∧ ∀ rest, Stops Token.isBare rest →
      Token.kinds (c.render.toList ++ rest) = ks ++ Token.kinds rest := by
  obtain ⟨l, hl, hleft⟩ := kinds_render_operand h.writable.1 h.named.1
  obtain ⟨r, hr, hright⟩ := kinds_render_operand h.writable.2 h.named.2
  obtain ⟨ws, hws, hwords, hphrase⟩ :=
    Comparison.exists_phrase_eq c.operator.comparison c.operator.negated
  have hcompares : c.Compares l ws r := ⟨hl, hws, hr, h.wellTyped⟩
  have hcomparison (rest : List Char) (hrest : Stops Token.isBare rest) :
      Token.kinds (c.left.render.toList ++ ' ' :: (c.operator.phrase.toList ++
        ' ' :: (c.right.render.toList ++ rest))) =
      l :: (phraseKinds ws ++ r :: Token.kinds rest) := by
    rw [hleft _ (stops_space _), Token.kinds_space, Operator.phrase, hphrase,
      kinds_phrase hwords hws.ne_nil, hright rest hrest]
  rcases hk : c.connector with - | k
  · refine ⟨_, .first hk hcompares, fun rest hrest => ?_⟩
    have htext : c.render.toList ++ rest = c.left.render.toList ++ ' ' ::
        (c.operator.phrase.toList ++ ' ' :: (c.right.render.toList ++ rest)) := by
      simp [Clause.render, hk]
    rw [htext, hcomparison rest hrest]
    simp
  · obtain ⟨ks, hks, hkwords, hkrender⟩ := Connector.exists_render_eq k
    refine ⟨_, .joined hk hks hcompares, fun rest hrest => ?_⟩
    have htext : c.render.toList ++ rest = (" ".intercalate ks).toList ++ ' ' ::
        (c.left.render.toList ++ ' ' ::
          (c.operator.phrase.toList ++ ' ' :: (c.right.render.toList ++ rest))) := by
      simp [Clause.render, hk, ← hkrender]
    rw [htext, kinds_phrase hkwords hks.ne_nil, hcomparison rest hrest]
    simp

/-- The text of a chain of clauses has the tokens which spell them, one after the other. -/
theorem kinds_render_clauses {cs : List Clause} (h : ∀ c ∈ cs, c.IsWritable) :
    ∃ parts, List.Forall₂ Clause.Spells parts cs ∧
      Token.kinds (" ".intercalate (cs.map Clause.render)).toList = parts.flatten ++ [.eof] := by
  induction cs with
  | nil => exact ⟨[], .nil, Token.kinds_nil⟩
  | cons c cs ih =>
    rw [List.forall_mem_cons] at h
    obtain ⟨ks, hks, hkinds⟩ := kinds_render_clause h.1
    obtain ⟨parts, hparts, hrest⟩ := ih h.2
    refine ⟨ks :: parts, .cons hks hparts, ?_⟩
    rcases cs with - | ⟨d, cs⟩
    · cases hparts
      rw [List.map_singleton, String.intercalate_singleton]
      simpa using hkinds [] stops_nil
    · rw [List.map_cons, List.map_cons, String.intercalate_cons_cons, String.toList_append,
        String.toList_append, List.append_assoc]
      change Token.kinds (c.render.toList ++
        ' ' :: (" ".intercalate ((d :: cs).map Clause.render)).toList) = _
      rw [hkinds _ (stops_space _), Token.kinds_space, hrest, List.flatten_cons, List.append_assoc]

/-- The text of the context of a rule. -/
def Rule.context (r : Rule) : String :=
  "ACTION " ++ r.requesting ++ " IS BLOCKED" ++
    match r.restricting with
    | some name => " BY ACTION " ++ name
    | none => ""

theorem kinds_context {r : Rule} (h : r.WellFormed) :
    Token.kinds r.context.toList = contextKinds r.requesting r.restricting ++ [.eof] := by
  have hword (w : String) (hw : (Token.Kind.word w).WellFormed) (rest : List Char) :
      Token.kinds (w.toList ++ ' ' :: rest) = .word w :: Token.kinds rest := by
    rw [kinds_word hw (stops_space rest), Token.kinds_space]
  -- The first four words are the same for both kinds of rules.
  have hfirst (tail : List Char) (htail : Stops Token.isBare tail) :
      Token.kinds ("ACTION".toList ++ ' ' :: (r.requesting.toList ++
        ' ' :: ("IS".toList ++ ' ' :: ("BLOCKED".toList ++ tail)))) =
      contextKinds r.requesting none ++ Token.kinds tail := by
    rw [hword "ACTION" (by decide), kinds_name h.requesting (stops_space _), Token.kinds_space,
      hword "IS" (by decide), kinds_word (w := "BLOCKED") (by decide) htail]
    rfl
  rw [Rule.context]
  rcases hr : r.restricting with - | q
  · simpa using hfirst [] stops_nil
  · have hsecond :
        Token.kinds (' ' :: ("BY".toList ++ ' ' :: ("ACTION".toList ++ ' ' :: q.toList))) =
          [.word "BY", .word "ACTION", .name q, .eof] := by
      have hq := kinds_name (h.restricting q (by rw [hr]; rfl)) (stops_nil (p := Token.isBare))
      rw [List.append_nil, Token.kinds_nil] at hq
      rw [Token.kinds_space, hword "BY" (by decide), hword "ACTION" (by decide), hq]
    have hboth :=
      hfirst _ (stops_space ("BY".toList ++ ' ' :: ("ACTION".toList ++ ' ' :: q.toList)))
    rw [hsecond] at hboth
    simpa [contextKinds] using hboth

theorem Rule.WellFormed.writtenIn {r : Rule} (h : r.WellFormed) :
    r.WrittenIn r.context.toList r.predicate.render.toList := by
  refine ⟨kinds_context h, ?_, h.wellNamed⟩
  obtain ⟨parts, hparts, hkinds⟩ := kinds_render_clauses fun c hc =>
    ⟨h.writable c hc, h.isNamed hc, h.wellTyped c hc⟩
  exact ⟨_, ⟨parts, hparts, rfl⟩, hkinds⟩

/-- Blanks around a statement do not matter. -/
theorem Rule.WrittenAs.trim {r : Rule} {s : List Char} (h : r.WrittenAs s) :
    r.WrittenAs (trim s) := by
  obtain ⟨a, b, rfl, h⟩ := h
  obtain ⟨p, hp, hblank⟩ := exists_trimStart a
  obtain ⟨q, hq, hblank'⟩ := exists_trimEnd b
  have hclosed : Token.Closed (trimEnd b) :=
    Token.Closed.of_append_blanks hblank' (hq ▸ h.closed_predicate)
  have ha : Token.kinds (trimStart a) = Token.kinds a := by
    conv => rhs; rw [hp]
    exact (Token.kinds_blanks_append hblank _).symm
  have hb : Token.kinds (trimEnd b) = Token.kinds b := by
    conv => rhs; rw [hq]
    exact (Token.kinds_append_blanks hblank' (.inl hclosed)).symm
  -- Neither part is blank, so the trimming of the whole ends in them.
  have htrimmed : r.WrittenIn (trimStart a) (trimEnd b) :=
    ⟨ha ▸ h.context, hb ▸ h.predicate, h.wellNamed⟩
  exact ⟨_, _, trim_append htrimmed.ne_nil.1 htrimmed.ne_nil.2 _, htrimmed⟩

theorem Rule.WrittenAs.of_trim {r : Rule} {s : List Char} (h : r.WrittenAs (Text.trim s)) :
    r.WrittenAs s := by
  obtain ⟨a, b, heq, h⟩ := h
  obtain ⟨p, q, hs, hp, hq⟩ := exists_trim s
  have ha := Token.kinds_blanks_append hp a
  have hb := Token.kinds_append_blanks hq (.inl h.closed_predicate)
  exact ⟨p ++ a, b ++ q, by rw [hs, heq]; simp, ha ▸ h.context, hb ▸ h.predicate, h.wellNamed⟩

theorem Rule.read_eq_ok_iff_writtenAs {s : String} {r : Rule} :
    (Rule.read s).result = .ok r ↔ r.WrittenAs s.toList := by
  rw [read_eq_ok_iff]
  exact ⟨WrittenAs.of_trim, WrittenAs.trim⟩

/-- A well-formed rule is read back. -/
theorem Rule.WellFormed.read_render {r : Rule} (h : r.WellFormed) :
    (Rule.read r.render).result = .ok r := by
  have hrender : r.render.toList =
      r.context.toList ++ (Statement.separator ++ r.predicate.render.toList) := by
    rcases hr : r.restricting with - | q <;>
      simp [Rule.render, Rule.context, Statement.separator, hr]
  rw [read_eq_ok_iff_writtenAs, hrender]
  exact ⟨_, _, rfl, h.writtenIn⟩

/-! ## What is read -/

theorem Operand.Spells.isWritable {k : Token.Kind} {o : Operand} (h : Spells k o)
    (hk : k.WellFormed) : o.IsWritable := by
  cases h with
  | string s => exact hk
  | number n => exact hk
  | reference hf => trivial

theorem Clause.Spells.compares {ks : List Token.Kind} {c : Clause} (h : Spells ks c) :
    ∃ l ws r, c.Compares l ws r ∧ l ∈ ks ∧ r ∈ ks := by
  cases h with
  | first hk h => exact ⟨_, _, _, h, by simp, by simp⟩
  | joined hk hks h => exact ⟨_, _, _, h, by simp, by simp⟩

/-- A rule which is spelled is well formed. -/
theorem Rule.WrittenIn.wellFormed {r : Rule} {a b : List Char} (h : r.WrittenIn a b) :
    r.WellFormed := by
  have hname {n : String} (hn : Token.Kind.name n ∈ Token.kinds a) : Token.isName n.toList :=
    Token.wellFormed_of_mem_kinds hn
  rw [h.context] at hname
  obtain ⟨_, ⟨parts, hparts, rfl⟩, hkinds⟩ := h.predicate
  have hclause : ∀ c ∈ r.predicate.clauses,
      c.left.IsWritable ∧ c.right.IsWritable ∧ c.WellTyped := by
    -- An operand is what its token says, and the token came of a text.
    intro c hc
    obtain ⟨ks, hmem, hks⟩ := exists_of_mem_right hparts hc
    obtain ⟨l, ws, r', hcompares, hl, hr⟩ := hks.compares
    have hwf {k : Token.Kind} (hk : k ∈ ks) : k.WellFormed := by
      refine Token.wellFormed_of_mem_kinds (s := b) ?_
      rw [hkinds]
      exact List.mem_append_left _ (List.mem_flatten_of_mem hmem hk)
    exact ⟨hcompares.left.isWritable (hwf hl), hcompares.right.isWritable (hwf hr),
      hcompares.wellTyped⟩
  refine ⟨?_, ?_, h.wellNamed, fun c hc => ⟨(hclause c hc).1, (hclause c hc).2.1⟩,
    fun c hc => (hclause c hc).2.2⟩
  · rcases hr : r.restricting with - | q <;> exact hname (by simp [hr, contextKinds])
  · intro n hn
    exact hname (by simp [Option.mem_def.1 hn, contextKinds])

/-- A rule which is read of a statement is well formed. -/
theorem Rule.wellFormed_of_read {r : Rule} {s : String} (h : (Rule.read s).result = .ok r) :
    r.WellFormed := by
  obtain ⟨a, b, -, h⟩ := read_eq_ok_iff.1 h
  exact h.wellFormed

/-- A rule is read back of its text just if it is well formed; and so is every rule which is read of
    any statement. -/
theorem Rule.read_render_iff_wellFormed :
    (∀ r : Rule, (Rule.read r.render).result = .ok r ↔ r.WellFormed) ∧
      ∀ (s : String) (r : Rule), (Rule.read s).result = .ok r →
        r.WellFormed ∧ (Rule.read r.render).result = .ok r :=
  ⟨fun _ => ⟨wellFormed_of_read, WellFormed.read_render⟩,
    fun _ _ h => ⟨wellFormed_of_read h, (wellFormed_of_read h).read_render⟩⟩

/-- A rule which holds a separator in a literal, and a second clause behind it. -/
def Rule.withQuotedSeparator : Rule where
  requesting := "a"
  restricting := none
  predicate :=
    { clauses := [
        { left := .reference "a" .name, operator := ⟨.is, false, .string, rfl⟩,
          right := .literal (.string "x IF y") },
        { left := .reference "a" .time, operator := ⟨.lessThan, true, .number, rfl⟩,
          right := .literal (.number 5), connector := some ⟨.and, true⟩ }]
      joined := by simp [Joined] }

theorem Rule.read_render_withQuotedSeparator :
    withQuotedSeparator.WellFormed ∧
      (Rule.read withQuotedSeparator.render).result = .ok withQuotedSeparator := by
  have hwf : withQuotedSeparator.WellFormed := by
    refine ⟨by decide, by decide, ⟨by decide, by decide⟩, ?_, by decide⟩
    simp [withQuotedSeparator, Operand.IsWritable, Value.IsWritable]
    decide
  exact read_render_iff_wellFormed.2 _ _ ((read_render_iff_wellFormed.1 _).2 hwf)

end Interlock
