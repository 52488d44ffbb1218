import Interlock.Proofs.Statement.Shape

/-!
# What clauses mean

The parts of a clause are texts, and each is read once more by itself when a draft takes it. As
every part came of some tokens, what is read is what these tokens spell.

* `ClauseText.read`: the clause of some parts. `ClauseText.HasShape.read_eq_ok_iff`: it is the one
  which the tokens spell.
* `ClauseText.Mean`: the clauses of some texts, one by one.
* `Chain.exists_read_iff`: a text is read as a chain of clauses just where its tokens spell them.
-/

namespace Interlock

open Text

/-! ## What clauses mean -/

/-- The clause of some parts, each of which is read in the order in which a draft takes them. -/
def ClauseText.read (t : ClauseText) : Except Error Clause := do
  let connector ← t.connector.mapM Connector.read
  let left ← Operand.read t.left
  let operator ← Operator.read t.operator left.type
  let right ← Operand.read t.right
  Clause.make left operator right connector

theorem Clause.make_eq_ok_iff {l r : Operand} {o : Operator} {k : Option Connector} {c : Clause} :
    make l o r k = .ok c ↔ c = ⟨l, o, r, k⟩ ∧ c.WellTyped := by
  constructor
  · intro h
    refine ⟨?_, wellTyped_of_make h⟩
    rw [make] at h
    split at h
    · cases h
    · split at h <;> cases h
      rfl
  · rintro ⟨rfl, hl, hr⟩
    rw [make, if_neg (by simp [hl.trans hr.symm]), if_neg (by simp [hl])]

theorem Token.Kind.word?_eq_none_of_isOperand {k : Token.Kind} (h : k.isOperand) :
    k.word? = none := by
  cases k with
  | word w => cases h
  | _ => rfl

/-- The words at the head of some tokens are told from what stands behind them. -/
theorem phraseKinds_append_inj {ks ks' : List String} {l l' : Token.Kind}
    {rest rest' : List Token.Kind} (hl : l.word? = none) (hl' : l'.word? = none)
    (h : phraseKinds ks ++ l :: rest = phraseKinds ks' ++ l' :: rest') :
    ks = ks' ∧ l = l' ∧ rest = rest' := by
  induction ks generalizing ks' with
  | nil =>
    rcases ks' with - | ⟨k', ks'⟩
    · obtain ⟨rfl, rfl⟩ := List.cons.inj h
      exact ⟨rfl, rfl, rfl⟩
    · obtain ⟨rfl, -⟩ := List.cons.inj h
      cases hl
  | cons k ks ih =>
    rcases ks' with - | ⟨k', ks'⟩
    · obtain ⟨rfl, -⟩ := List.cons.inj h
      cases hl'
    · obtain ⟨hk, htail⟩ := List.cons.inj h
      obtain ⟨rfl, rfl, rfl⟩ := ih htail
      cases hk
      exact ⟨rfl, rfl, rfl⟩

theorem Clause.spells_iff {c : Clause} {ks ws : List String} {l r : Token.Kind} (hl : l.isOperand)
    (hr : r.isOperand) : Spells (phraseKinds ks ++ l :: (phraseKinds ws ++ [r])) c ↔
      (ks = [] ∧ c.connector = none ∨ ∃ k, c.connector = some k ∧ Connector.Spells ks k) ∧
        c.Compares l ws r := by
  constructor
  -- Operands are no words, so the tokens fall into a connector, an operand, a phrase and an operand
  -- in one way only.
  · intro h
    have hword {k : Token.Kind} (hk : k.isOperand) := Token.Kind.word?_eq_none_of_isOperand hk
    generalize hkinds : phraseKinds ks ++ l :: (phraseKinds ws ++ [r]) = kinds at h
    rcases h with @⟨_, l', r', ws', hk, hc⟩ | @⟨_, l', r', ws', ks', k, hk, hks, hc⟩
    · obtain ⟨rfl, rfl, htail⟩ :=
        @phraseKinds_append_inj _ [] _ _ _ _ (hword hl) (hword hc.left.isOperand) hkinds
      obtain ⟨rfl, rfl, -⟩ := phraseKinds_append_inj (hword hr) (hword hc.right.isOperand) htail
      exact ⟨.inl ⟨rfl, hk⟩, hc⟩
    · obtain ⟨rfl, rfl, htail⟩ := phraseKinds_append_inj (hword hl) (hword hc.left.isOperand) hkinds
      obtain ⟨rfl, rfl, -⟩ := phraseKinds_append_inj (hword hr) (hword hc.right.isOperand) htail
      exact ⟨.inr ⟨k, hk, hks⟩, hc⟩
  · rintro ⟨⟨rfl, hk⟩ | ⟨k, hk, hks⟩, hc⟩
    · exact .first hk hc
    · exact .joined hk hks hc

theorem Clause.Spells.exists_shape {ks : List Token.Kind} {c : Clause} (h : Spells ks c) :
    ∃ x : Shape, x.Fits ∧ ks = x.kinds := by
  cases h with
  | @first _ l r ws hk h =>
    exact ⟨⟨[], l, ws, r⟩, ⟨.inl rfl, h.left.isOperand, h.phrase.ne_nil, h.right.isOperand⟩, rfl⟩
  | @joined _ l r ws ks k hk hks h =>
    exact ⟨⟨ks, l, ws, r⟩, ⟨.inr ⟨k, hks⟩, h.left.isOperand, h.phrase.ne_nil, h.right.isOperand⟩,
      rfl⟩

/-- A clause has a connector just if its shape has the words of one. -/
theorem Clause.Spells.connector_eq_none_iff {x : Shape} {c : Clause} (h : Spells x.kinds c)
    (hx : x.Fits) : c.connector = none ↔ x.joint = [] := by
  rcases ((spells_iff hx.left hx.right).1 h).1 with ⟨hjoint, hk⟩ | ⟨k, hk, hspells⟩
  · simp [hjoint, hk]
  · simp [hk, hspells.ne_nil]

namespace ClauseText

variable {cur : Cursor} {t : ClauseText} {x : Clause.Shape} {c : Clause}

/-! ### The parts of a clause -/

theorem HasShape.left_eq_ok_iff (h : HasShape cur t x) {o : Operand} :
    Operand.read t.left = .ok o ↔ Operand.Spells x.left o := by
  obtain ⟨l, hl, hkind, htext⟩ := h.left
  rw [← htext, ← hkind]
  exact Operand.read_eq_ok_iff hl (Token.Kind.ne_eof_of_isOperand (hkind ▸ h.fits.left))

theorem HasShape.right_eq_ok_iff (h : HasShape cur t x) {o : Operand} :
    Operand.read t.right = .ok o ↔ Operand.Spells x.right o := by
  obtain ⟨r, hr, hkind, htext⟩ := h.right
  rw [← htext, ← hkind]
  exact Operand.read_eq_ok_iff hr (Token.Kind.ne_eof_of_isOperand (hkind ▸ h.fits.right))

/-- The connector in front of a clause is read as its words spell it. -/
theorem HasShape.connector_eq_ok_iff (h : HasShape cur t x) {o : Option Connector} :
    t.connector.mapM Connector.read = .ok o ↔
      x.joint = [] ∧ o = none ∨ ∃ k, o = some k ∧ Connector.Spells x.joint k := by
  rw [h.connector]
  split
  · next hnil =>
    rw [hnil]
    constructor
    · rintro ⟨⟩
      exact .inl ⟨rfl, rfl⟩
    · rintro (⟨-, rfl⟩ | ⟨k, -, hk⟩)
      · rfl
      · cases hk
  · next hne =>
    refine (map_eq_ok_iff (f := some)).trans ?_
    simp only [Connector.read_eq_ok_iff h.joint, hne, false_and, false_or]
    exact exists_congr fun k => by rw [and_comm, eq_comm]

/-- The parts of a clause are read as the clause which their tokens spell. -/
theorem HasShape.read_eq_ok_iff (h : HasShape cur t x) :
    t.read = .ok c ↔ Clause.Spells x.kinds c := by
  rw [Clause.Shape.kinds, Clause.spells_iff h.fits.left h.fits.right]
  simp only [read, bind_eq_ok_iff, Clause.make_eq_ok_iff, h.connector_eq_ok_iff, h.left_eq_ok_iff,
    h.right_eq_ok_iff, h.operator, Operator.read_eq_ok_iff h.phrase]
  constructor
  · rintro ⟨k, hk, l, hl, o, ⟨ho, -⟩, r, hr, rfl, htyped⟩
    exact ⟨hk, hl, ho, hr, htyped⟩
  · rintro ⟨hk, hl, ho, hr, htyped⟩
    exact ⟨c.connector, hk, c.left, hl, c.operator, ⟨ho, htyped.1.symm⟩, c.right, hr, rfl, htyped⟩

/-- No part of a clause is blank. -/
theorem HasShape.not_isBlankText (h : HasShape cur t x) :
    ∀ part ∈ t.parts, isBlankText part = false := by
  have htoken {y : Token} (hy : y ∈ cur.tokens) (hk : y.kind.isOperand) :
      isBlankText y.text = false := by
    have hf := Token.finds_of_mem_tokens hy (Token.Kind.ne_eof_of_isOperand hk)
    exact isBlankText_eq_false hf.stops hf.ne_nil
  obtain ⟨l, hl, hlkind, hltext⟩ := h.left
  obtain ⟨r, hr, hrkind, hrtext⟩ := h.right
  simp only [parts, List.mem_append, Option.mem_toList, List.mem_cons, List.not_mem_nil, or_false]
  rintro part (hpart | rfl | rfl | rfl)
  · rw [h.connector] at hpart
    split at hpart
    · cases hpart
    · next hne =>
      cases hpart
      exact h.joint.not_isBlankText hne
  · rw [← hltext]
    exact htoken hl (hlkind ▸ h.fits.left)
  · rw [h.operator]
    exact h.phrase.not_isBlankText h.fits.ne_nil
  · rw [← hrtext]
    exact htoken hr (hrkind ▸ h.fits.right)

/-! ### Texts and clauses -/

/-- The texts are read as the clauses, one by one. -/
def Mean (texts : List ClauseText) (cs : List Clause) : Prop :=
  List.Forall₂ (fun t c => t.read = .ok c) texts cs

theorem mean_iff_of_hasShape {texts : List ClauseText} {shapes : List Clause.Shape}
    (h : List.Forall₂ (HasShape cur) texts shapes) {cs : List Clause} :
    Mean texts cs ↔ List.Forall₂ (fun x c => Clause.Spells x.kinds c) shapes cs := by
  induction h generalizing cs with
  | nil => rw [Mean, List.forall₂_nil_left_iff, List.forall₂_nil_left_iff]
  | cons hx _ ih =>
    rw [Mean, List.forall₂_cons_left_iff, List.forall₂_cons_left_iff]
    refine exists_congr fun c => exists_congr fun cs' => ?_
    rw [hx.read_eq_ok_iff]
    exact and_congr_right' (and_congr_left' ih)

end ClauseText

/-! ## Chains and their tokens -/

theorem joined_iff {cs : List Clause} : Joined cs ↔
    ∃ c cs', cs = c :: cs' ∧ c.connector = none ∧ ∀ d ∈ cs', d.connector ≠ none := by
  rcases cs with - | ⟨c, cs⟩
  · simp [Joined]
  · constructor
    · rintro ⟨hc, hcs⟩
      exact ⟨c, cs, rfl, hc, hcs⟩
    · rintro ⟨_, _, ⟨⟩, hc, hcs⟩
      exact ⟨hc, hcs⟩

/-- Shapes which spell joined clauses are those of a chain, and the other way round. -/
theorem Clause.areChain_iff {shapes : List Shape} {cs : List Clause}
    (h : List.Forall₂ (fun x c => x.Fits ∧ Spells x.kinds c) shapes cs) :
    AreChain shapes ↔ Joined cs := by
  have hjoined := exists_cons_iff_of_forall₂ h fun x c hx =>
    (hx.2.connector_eq_none_iff hx.1).symm
  rw [joined_iff, ← hjoined]
  refine ⟨AreChain.joined, fun hfirst => ⟨fun x hx => ?_, hfirst⟩⟩
  obtain ⟨c, -, hc⟩ := exists_of_mem_left h hx
  exact hc.1

/-- The tokens which spell clauses have the shapes of clauses. -/
theorem Clause.exists_shapes_of_spells {parts : List (List Token.Kind)} {cs : List Clause}
    (h : List.Forall₂ Spells parts cs) : ∃ shapes : List Shape, parts = shapes.map Shape.kinds ∧
      List.Forall₂ (fun x c => x.Fits ∧ Spells x.kinds c) shapes cs := by
  induction h with
  | nil => exact ⟨[], rfl, .nil⟩
  | cons hc _ ih =>
    obtain ⟨x, hx, rfl⟩ := hc.exists_shape
    obtain ⟨shapes, rfl, hshapes⟩ := ih
    exact ⟨x :: shapes, rfl, .cons ⟨hx, hc⟩ hshapes⟩

/-- A text is read as a chain of clauses just where its tokens spell them. -/
theorem Chain.exists_read_iff {cur : Cursor} {cs : List Clause} :
    (∃ texts, read cur.tokens = .ok texts ∧ ClauseText.Mean texts cs) ↔
      Joined cs ∧ ∃ parts, List.Forall₂ Clause.Spells parts cs ∧
        cur.tokens.map Token.kind = parts.flatten ++ [.eof] := by
  constructor
  · rintro ⟨texts, hread, hmean⟩
    obtain ⟨shapes, hchain, hshapes, hkinds⟩ := exists_shapes_of_read hread
    have hspells := (ClauseText.mean_iff_of_hasShape hshapes).1 hmean
    refine ⟨?_, shapes.map Clause.Shape.kinds, List.forall₂_map_left_iff.2 hspells, hkinds⟩
    exact (Clause.areChain_iff ((List.forall₂_and_left _ _).2 ⟨hchain.fits, hspells⟩)).1 hchain
  · rintro ⟨hjoined, parts, hparts, hkinds⟩
    obtain ⟨shapes, rfl, hspells⟩ := Clause.exists_shapes_of_spells hparts
    obtain ⟨texts, hread, hshapes⟩ :=
      exists_read_of_areChain ((Clause.areChain_iff hspells).2 hjoined) hkinds
    refine ⟨texts, hread, (ClauseText.mean_iff_of_hasShape hshapes).2 ?_⟩
    exact ((List.forall₂_and_left _ _).1 hspells).2

end Interlock
