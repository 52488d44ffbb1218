import Interlock.Proofs.Clause.Refusal
import Interlock.Proofs.Statement.Meaning

/-!
# What is wrong with a clause

Tokens which have the shape of a clause can still fail to spell one: a reference may be to an
unknown field, a phrase may be no operator, and the types may not agree. The parts are tried from
left to right, and the first which fails gives the error.

* `Clause.Offends`: the shape of a clause, and what is wrong with it.
* `ClauseText.HasShape.read_eq_error_iff`: the parts of a clause give this error.
* `ClauseText.mapM_read_eq_error_iff`: the first clause of several which offends gives the error.
  `ClauseText.exists_mean_iff`: if none does, they have a meaning.
-/

namespace Interlock

open Text

/-! ## Parts -/

/-- Of all operands, a reference to an unknown field alone is refused. -/
theorem Operand.read_text_eq_error_iff {cur : Cursor} {t : Token} (ht : t ∈ cur.tokens)
    (hk : t.kind.isOperand) {err : Error} : Operand.read t.text = .error err ↔
      ∃ n f, t.kind = .reference n f ∧ Field.ofSpelling? f = none ∧
        err = { cause := .invalidOperand (n ++ "." ++ f) } := by
  simp only [Operand.read_eq_error_iff, ne_eq,
    Operand.read_eq_ok_iff ht (Token.Kind.ne_eof_of_isOperand hk)]
  constructor
  · rintro ⟨hnone, rfl⟩
    generalize hkind : t.kind = k at hk hnone
    cases k with
    | str s => exact absurd (.string s) (hnone _)
    | int n => exact absurd (.number n) (hnone _)
    | reference n f =>
      refine ⟨n, f, rfl, ?_, by rw [Token.text_of_reference ht hkind]⟩
      rcases hf : Field.ofSpelling? f with - | field
      · rfl
      · exact absurd (.reference hf) (hnone _)
    | _ => cases hk
  · rintro ⟨n, f, hkind, hf, rfl⟩
    refine ⟨fun o ho => ?_, by rw [Token.text_of_reference ht hkind]⟩
    rw [hkind] at ho
    cases ho with
    | reference hf' => cases hf.symm.trans hf'

/-- A phrase is refused if it spells no comparison, or one which cannot compare the type. -/
theorem Operator.read_phrase_eq_error_iff {ws : List String} (h : AreWords ws) {t : ValueType}
    {err : Error} : Operator.read (" ".intercalate ws) t = .error err ↔
      (∀ c n, ¬Comparison.Spells ws c n) ∧
          err = { cause := .unknownOperator (" ".intercalate ws) } ∨
        ∃ c n, Comparison.Spells ws c n ∧ c.supports t = false ∧
          err = { cause := .unsupportedOperandType (c.phrase n) t } := by
  rw [Operator.read_eq_error_iff, h.words_eq]
  simp only [phrase?_eq_some_iff]
  refine or_congr_left (and_congr_left' ?_)
  simp only [← phrase?_eq_some_iff]
  rcases phrase? ws with - | ⟨c, n⟩ <;> simp

/-! ## Clauses -/

/-- What is wrong with tokens which have the shape of a clause. -/
inductive Clause.Offends (x : Shape) : Cause → Prop
  | left {n f : String} (hl : x.left = .reference n f) (hf : Field.ofSpelling? f = none) :
    Offends x (.invalidOperand (n ++ "." ++ f))
  | phrase {l : Operand} (hl : Operand.Spells x.left l)
    (hp : ∀ c n, ¬Comparison.Spells x.phrase c n) :
    Offends x (.unknownOperator (" ".intercalate x.phrase))
  | unsupported {l : Operand} {c : Comparison} {not : Bool} (hl : Operand.Spells x.left l)
    (hp : Comparison.Spells x.phrase c not) (hs : c.supports l.type = false) :
    Offends x (.unsupportedOperandType (c.phrase not) l.type)
  | right {l : Operand} {c : Comparison} {not : Bool} {n f : String}
    (hl : Operand.Spells x.left l) (hp : Comparison.Spells x.phrase c not)
    (hs : c.supports l.type) (hr : x.right = .reference n f) (hf : Field.ofSpelling? f = none) :
    Offends x (.invalidOperand (n ++ "." ++ f))
  | incompatible {l r : Operand} {c : Comparison} {not : Bool} (hl : Operand.Spells x.left l)
    (hp : Comparison.Spells x.phrase c not) (hs : c.supports l.type)
    (hr : Operand.Spells x.right r) (ht : l.type ≠ r.type) :
    Offends x (.incompatibleOperandTypes l.type r.type)

namespace ClauseText

variable {cur : Cursor} {t : ClauseText} {x : Clause.Shape} {err : Error}

theorem HasShape.connector_ne_error (h : HasShape cur t x) :
    t.connector.mapM Connector.read ≠ .error err := by
  obtain ⟨k, hk⟩ : ∃ k, t.connector.mapM Connector.read = .ok k := by
    rcases h.fits.joint with hnil | ⟨k, hk⟩
    · exact ⟨none, h.connector_eq_ok_iff.2 (.inl ⟨hnil, rfl⟩)⟩
    · exact ⟨some k, h.connector_eq_ok_iff.2 (.inr ⟨k, rfl, hk⟩)⟩
  simp [hk]

theorem HasShape.left_eq_error_iff (h : HasShape cur t x) : Operand.read t.left = .error err ↔
    ∃ n f, x.left = .reference n f ∧ Field.ofSpelling? f = none ∧
      err = { cause := .invalidOperand (n ++ "." ++ f) } := by
  obtain ⟨l, hl, hkind, htext⟩ := h.left
  rw [← htext, ← hkind]
  exact Operand.read_text_eq_error_iff hl (hkind ▸ h.fits.left)

theorem HasShape.right_eq_error_iff (h : HasShape cur t x) : Operand.read t.right = .error err ↔
    ∃ n f, x.right = .reference n f ∧ Field.ofSpelling? f = none ∧
      err = { cause := .invalidOperand (n ++ "." ++ f) } := by
  obtain ⟨r, hr, hkind, htext⟩ := h.right
  rw [← htext, ← hkind]
  exact Operand.read_text_eq_error_iff hr (hkind ▸ h.fits.right)

/-- The parts of a clause give the error of the first of them which offends. -/
theorem HasShape.read_eq_error_iff (h : HasShape cur t x) :
    t.read = .error err ↔ ∃ cause, Clause.Offends x cause ∧ err = { cause } := by
  obtain ⟨k, hk⟩ : ∃ k, t.connector.mapM Connector.read = .ok k := by
    rcases hk : t.connector.mapM Connector.read with err | k
    · exact absurd hk h.connector_ne_error
    · exact ⟨k, rfl⟩
  simp only [read, hk, bind_eq_error_iff, reduceCtorEq, false_or, Except.ok.injEq,
    exists_eq_left', h.left_eq_error_iff, h.left_eq_ok_iff, h.right_eq_error_iff,
    h.right_eq_ok_iff, h.operator, Operator.read_phrase_eq_error_iff h.phrase,
    Operator.read_eq_ok_iff h.phrase, Clause.make_eq_error_iff]
  constructor
  · rintro (⟨n, f, hl, hf, rfl⟩ | ⟨l, hl, (⟨hp, rfl⟩ | ⟨c, not, hp, hs, rfl⟩) |
      ⟨o, ⟨ho, hot⟩, ⟨n, f, hr, hf, rfl⟩ | ⟨r, hr, ⟨ht, rfl⟩ | ⟨-, hne, -⟩⟩⟩⟩)
    · exact ⟨_, .left hl hf, rfl⟩
    · exact ⟨_, .phrase hl hp, rfl⟩
    · exact ⟨_, .unsupported hl hp hs, rfl⟩
    · exact ⟨_, .right hl ho (hot ▸ o.supported) hr hf, rfl⟩
    · exact ⟨_, .incompatible hl ho (hot ▸ o.supported) hr ht, rfl⟩
    · exact absurd hot hne
  · rintro ⟨cause, hoffends, rfl⟩
    cases hoffends with
    | left hl hf => exact .inl ⟨_, _, hl, hf, rfl⟩
    | phrase hl hp => exact .inr ⟨_, hl, .inl (.inl ⟨hp, rfl⟩)⟩
    | unsupported hl hp hs => exact .inr ⟨_, hl, .inl (.inr ⟨_, _, hp, hs, rfl⟩)⟩
    | @right l c not n f hl hp hs hr hf =>
      exact .inr ⟨l, hl, .inr ⟨⟨c, not, l.type, hs⟩, ⟨hp, rfl⟩, .inl ⟨n, f, hr, hf, rfl⟩⟩⟩
    | @incompatible l r c not hl hp hs hr ht =>
      exact .inr ⟨l, hl, .inr ⟨⟨c, not, l.type, hs⟩, ⟨hp, rfl⟩, .inr ⟨r, hr, .inl ⟨ht, rfl⟩⟩⟩⟩

/-- The parts of a clause which does not offend are read. -/
theorem HasShape.exists_read_iff (h : HasShape cur t x) :
    (∃ c, t.read = .ok c) ↔ ∀ cause, ¬Clause.Offends x cause := by
  constructor
  · rintro ⟨c, hc⟩ cause hoffends
    cases hc.symm.trans (h.read_eq_error_iff.2 ⟨cause, hoffends, rfl⟩)
  · intro hnone
    rcases hread : t.read with err | c
    · obtain ⟨cause, hoffends, -⟩ := h.read_eq_error_iff.1 hread
      exact absurd hoffends (hnone cause)
    · exact ⟨c, rfl⟩

/-! ## Chains of clauses -/

variable {texts : List ClauseText} {shapes : List Clause.Shape}

/-- The first clause which offends gives the error. -/
theorem mapM_read_eq_error_iff (h : List.Forall₂ (HasShape cur) texts shapes) :
    texts.mapM read = .error err ↔ ∃ before x behind, shapes = before ++ x :: behind ∧
      (∀ y ∈ before, ∀ cause, ¬Clause.Offends y cause) ∧
        ∃ cause, Clause.Offends x cause ∧ err = { cause } := by
  rw [mapM_eq_error_iff]
  exact exists_first_iff_of_forall₂ h (fun _ _ hx => hx.exists_read_iff)
    fun _ _ hx => hx.read_eq_error_iff

/-- Clauses of which none offends are read. -/
theorem exists_mean_iff (h : List.Forall₂ (HasShape cur) texts shapes) :
    (∃ cs, Mean texts cs) ↔ ∀ x ∈ shapes, ∀ cause, ¬Clause.Offends x cause := by
  constructor
  · rintro ⟨cs, hmean⟩ x hx
    obtain ⟨t, ht, htx⟩ := exists_of_mem_right h hx
    obtain ⟨c, -, hc⟩ := exists_of_mem_left hmean ht
    exact htx.exists_read_iff.1 ⟨c, hc⟩
  · intro hnone
    rcases hread : texts.mapM read with err | cs
    · obtain ⟨before, x, behind, rfl, -, cause, hoffends, -⟩ := (mapM_read_eq_error_iff h).1 hread
      exact absurd hoffends (hnone x (by simp) cause)
    · exact ⟨cs, mapM_eq_ok_iff.1 hread⟩

end ClauseText

end Interlock
