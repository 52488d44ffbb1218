import Interlock.Proofs.Token.Shape
import Interlock.Statement
import Mathlib.Data.List.Forall2

/-!
# The grammar of statements

Which tokens spell a rule, said without the way in which statements are read. A context, the word
`IF` between two spaces, and a chain of clauses: an operand, a phrase of words and an operand, with
the words of a connector in front of every clause but the first.

* `Connector.Spells`, `Comparison.Spells`, `Operand.Spells`: the words or the token of each part of
  a clause. `Clause.Spells`, `Predicate.Spells`: the tokens of a clause, and of a chain.
* `Rule.SpelledBy`: the tokens of a source spell a rule.
* `Connector.read_eq_ok_iff`, `Operator.read_eq_ok_iff`, `Operand.read_eq_ok_iff`: the parts of a
  clause are read as they are spelled. `Operator.read_eq_ok_iff_spells`: so is an operator of any
  text.
-/

namespace Interlock

open Text

/-! ## Connectors -/

/-- The words of a connector. -/
inductive Connector.Spells : List String → Connector → Prop
  | and : Spells ["AND"] ⟨.and, false⟩
  | or : Spells ["OR"] ⟨.or, false⟩
  | andNot : Spells ["AND", "NOT"] ⟨.and, true⟩
  | orNot : Spells ["OR", "NOT"] ⟨.or, true⟩

theorem Connector.ofWords?_eq_some_iff {ws : List String} {k : Connector} :
    ofWords? ws = some k ↔ Spells ws k := by
  constructor
  · intro h
    unfold ofWords? at h
    split at h <;> cases h <;> constructor
  · rintro (_ | _ | _ | _) <;> rfl

theorem Connector.Spells.ne_nil {ws : List String} {k : Connector} (h : Spells ws k) :
    ws ≠ [] := by
  cases h <;> simp

/-! ## Operators -/

/-- A word which may be left out. -/
def optionalWord (present : Bool) (word : String) : List String := if present then [word] else []

/-- The phrase of a comparison, or of its negation. -/
inductive Comparison.Spells : List String → Comparison → Bool → Prop
  -- Without a word of comparison behind it, `IS` is the comparison itself.
  | is : Spells ["IS"] .is false
  | isNot : Spells ["IS", "NOT"] .is true
  | lessThan (is not : Bool) :
    Spells (optionalWord is "IS" ++ optionalWord not "NOT" ++ ["LESS", "THAN"]) .lessThan not
  | moreThan (is not : Bool) :
    Spells (optionalWord is "IS" ++ optionalWord not "NOT" ++ ["MORE", "THAN"]) .moreThan not
  -- The one comparison which is never introduced by `IS`.
  | overlapsWith (not : Bool) :
    Spells (optionalWord not "NOT" ++ ["OVERLAPS", "WITH"]) .overlapsWith not

theorem Comparison.Spells.ne_nil {ws : List String} {c : Comparison} {n : Bool}
    (h : Spells ws c n) : ws ≠ [] := by
  cases h <;> simp

namespace Operator

theorem dropWord_eq {word : String} {ws rest : List String} {present : Bool}
    (h : dropWord word ws = (present, rest)) : ws = optionalWord present word ++ rest := by
  rcases ws with - | ⟨w, ws⟩
  · cases h
    rfl
  · rw [dropWord] at h
    split at h
    · next hw =>
      cases h
      rw [hw]
      rfl
    · cases h
      rfl

theorem phrase?_eq_some_iff {ws : List String} {c : Comparison} {n : Bool} :
    phrase? ws = some (c, n) ↔ Comparison.Spells ws c n := by
  constructor
  · intro h
    rcases his : dropWord "IS" ws with ⟨is, rest⟩
    rcases hnot : dropWord "NOT" rest with ⟨not, rest'⟩
    simp only [phrase?, his, hnot] at h
    obtain ⟨c', hc, he⟩ := Option.map_eq_some_iff.1 h
    obtain ⟨rfl, rfl⟩ : c' = c ∧ not = n := by simpa using he
    rw [dropWord_eq his, dropWord_eq hnot]
    unfold comparisonOf? at hc
    split at hc <;> cases hc
    · cases not
      · exact .is
      · exact .isNot
    · simpa using Comparison.Spells.lessThan is not
    · simpa using Comparison.Spells.moreThan is not
    · exact .overlapsWith not
  · rintro (_ | _ | ⟨is, not⟩ | ⟨is, not⟩ | not)
    · rfl
    · rfl
    · cases is <;> cases n <;> rfl
    · cases is <;> cases n <;> rfl
    · cases n <;> rfl

end Operator

/-! ## Phrases -/

/-- Words as tokens have them. -/
def AreWords (ws : List String) : Prop := ∀ w ∈ ws, (Token.Kind.word w).WellFormed

instance (ws : List String) : Decidable (AreWords ws) :=
  inferInstanceAs (Decidable (∀ w ∈ ws, (Token.Kind.word w).WellFormed))

theorem AreWords.words_eq {ws : List String} (h : AreWords ws) :
    (words (" ".intercalate ws).toList).map String.ofList = ws := by
  refine words_intercalate fun w hw => ⟨(h w hw).1, fun c hc hb => ?_⟩
  exact Token.not_isBare_of_isBlank hb (Token.isBare_of_isUpper ((h w hw).2 c hc))

/-- A phrase is not blank. -/
theorem AreWords.not_isBlankText {ws : List String} (h : AreWords ws) (hne : ws ≠ []) :
    isBlankText (" ".intercalate ws) = false := by
  obtain ⟨w, ws, rfl⟩ := List.exists_cons_of_ne_nil hne
  obtain ⟨hw, hup⟩ := h w List.mem_cons_self
  obtain ⟨c, cs, hcs⟩ := List.exists_cons_of_ne_nil (l := w.toList) (by simpa using hw)
  have hc : ¬isBlank c := fun hb =>
    Token.not_isBare_of_isBlank hb (Token.isBare_of_isUpper (hup c (hcs ▸ List.mem_cons_self)))
  obtain ⟨s, hs⟩ : ∃ s, (" ".intercalate (w :: ws)).toList = c :: s := by
    rcases ws with - | ⟨v, ws⟩ <;> simp [hcs]
  refine isBlankText_eq_false ?_ (by simp [hs])
  rw [hs]
  exact stops_cons.2 hc

theorem Connector.read_eq_ok_iff {ws : List String} (h : AreWords ws) {k : Connector} :
    Connector.read (" ".intercalate ws) = .ok k ↔ Spells ws k := by
  rw [← ofWords?_eq_some_iff, Connector.read, h.words_eq]
  rcases ofWords? ws with - | k' <;> simp

/-- An operator is read of a text just where the words of the text are a phrase for it. -/
theorem Operator.read_eq_ok_iff_spells {text : String} {t : ValueType} {o : Operator} :
    Operator.read text t = .ok o ↔
      Comparison.Spells ((words text.toList).map String.ofList) o.comparison o.negated ∧
        o.type = t := by
  rw [← phrase?_eq_some_iff, Operator.read]
  rcases phrase? ((words text.toList).map String.ofList) with - | ⟨c, n⟩
  · simp
  · simp only [make]
    split
    · next hs =>
      constructor
      · rintro ⟨⟩
        exact ⟨rfl, rfl⟩
      · rintro ⟨h, rfl⟩
        obtain ⟨rfl, rfl⟩ : c = o.comparison ∧ n = o.negated := by simpa using h
        rfl
    · next hs =>
      constructor
      · rintro ⟨⟩
      · rintro ⟨h, rfl⟩
        obtain ⟨rfl, rfl⟩ : c = o.comparison ∧ n = o.negated := by simpa using h
        exact absurd o.supported hs

theorem Operator.read_eq_ok_iff {ws : List String} (h : AreWords ws) {t : ValueType}
    {o : Operator} : Operator.read (" ".intercalate ws) t = .ok o ↔
      Comparison.Spells ws o.comparison o.negated ∧ o.type = t := by
  rw [read_eq_ok_iff_spells, h.words_eq]

/-! ## Operands -/

/-- The kind of the token of an operand. -/
inductive Operand.Spells : Token.Kind → Operand → Prop
  | string (s : String) : Spells (.str s) (.literal (.string s))
  | number (n : Int64) : Spells (.int n) (.literal (.number n))
  | reference {n spelling : String} {f : Field} (h : Field.ofSpelling? spelling = some f) :
    Spells (.reference n spelling) (.reference n f)

theorem Operand.ofKind?_eq_some_iff {k : Token.Kind} {o : Operand} :
    ofKind? k = some o ↔ Spells k o := by
  constructor
  · intro h
    unfold ofKind? at h
    split at h
    · cases h
      exact .string _
    · cases h
      exact .number _
    · obtain ⟨f, hf, rfl⟩ := Option.map_eq_some_iff.1 h
      exact .reference hf
    · cases h
  · rintro (s | n | hf)
    · rfl
    · rfl
    · simp [ofKind?, hf]

theorem Operand.Spells.isOperand {k : Token.Kind} {o : Operand} (h : Spells k o) :
    k.isOperand := by
  cases h <;> rfl

/-- The text of a token is read as the operand which the token spells. -/
theorem Operand.read_eq_ok_iff {c : Cursor} {t : Token} (h : t ∈ c.tokens) (ht : t.kind ≠ .eof)
    {o : Operand} : Operand.read t.text = .ok o ↔ Spells t.kind o := by
  have hf := Token.finds_of_mem_tokens h ht
  -- Nothing but the end follows the token in its own text, as an operand requires.
  have hend : ((Cursor.ofSource t.text).advance ([] ++ t.text.toList) []).next.1.kind = .eof := rfl
  rw [← ofKind?_eq_some_iff, Operand.read, hf.next_eq]
  simp only [hend]
  rcases ofKind? t.kind with - | o' <;> simp

/-! ## Clauses -/

/-- The kinds of the tokens of a phrase. -/
def phraseKinds (ws : List String) : List Token.Kind := ws.map .word

/-- The tokens of a comparison: an operand, a phrase and an operand, of one type. -/
structure Clause.Compares (c : Clause) (left : Token.Kind) (phrase : List String)
    (right : Token.Kind) : Prop where
  left : Operand.Spells left c.left
  phrase : Comparison.Spells phrase c.operator.comparison c.operator.negated
  right : Operand.Spells right c.right
  wellTyped : c.WellTyped

/-- The kinds of the tokens of a clause. The words of its connector, if it has one, come first. -/
inductive Clause.Spells : List Token.Kind → Clause → Prop
  | first {c : Clause} {l r : Token.Kind} {ws : List String} (hk : c.connector = none)
    (h : c.Compares l ws r) : Spells (l :: (phraseKinds ws ++ [r])) c
  | joined {c : Clause} {l r : Token.Kind} {ws ks : List String} {k : Connector}
    (hk : c.connector = some k) (hks : Connector.Spells ks k) (h : c.Compares l ws r) :
    Spells (phraseKinds ks ++ l :: (phraseKinds ws ++ [r])) c

/-- The kinds of the tokens of a chain of clauses. -/
def Predicate.Spells (ks : List Token.Kind) (p : Predicate) : Prop :=
  ∃ parts, List.Forall₂ Clause.Spells parts p.clauses ∧ ks = parts.flatten

/-! ## Statements -/

/-- The kinds of the tokens of a context, which declares one name or two. -/
def contextKinds (requesting : String) : Option String → List Token.Kind
  | none => [.word "ACTION", .name requesting, .word "IS", .word "BLOCKED"]
  | some restricting =>
    [.word "ACTION", .name requesting, .word "IS", .word "BLOCKED", .word "BY", .word "ACTION",
      .name restricting]

/-- The names of a rule differ, and its clauses refer to no others. -/
structure Rule.WellNamed (r : Rule) : Prop where
  distinct : r.restricting ≠ some r.requesting
  declared : ∀ c ∈ r.predicate.clauses, ∀ n ∈ c.names, n = r.requesting ∨ r.restricting = some n

/-- A space stands directly before a token, and one directly behind it. -/
def Token.IsSpaced (t : Token) (source : String) : Prop :=
  ∃ before behind, source.toList = before ++ ' ' :: (t.text.toList ++ ' ' :: behind) ∧
    t.span.start = byteSize (before ++ [' '])

/-- The tokens of a source spell a rule: those of a context which declares its names, the word `IF`
    between two spaces, those of its predicate, and the end. -/
def Rule.SpelledBy (r : Rule) (source : String) : Prop :=
  ∃ context mark predicate, Token.ofSource source = context ++ mark :: predicate ∧
    context.map Token.kind = contextKinds r.requesting r.restricting ∧
    mark.kind = .word "IF" ∧ mark.IsSpaced source ∧
    (∃ ks, Predicate.Spells ks r.predicate ∧ predicate.map Token.kind = ks ++ [.eof]) ∧
    r.WellNamed

end Interlock
