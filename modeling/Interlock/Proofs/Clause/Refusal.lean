import Interlock.Clause
import Interlock.Proofs.Result

/-!
# Why the parts of a clause are refused

A text can fail to be a connector, an operand or an operator, and three parts can fail to make a
clause. Each of these has its own errors, which name what was refused.

* `Connector.read_eq_error_iff`, `Operand.read_eq_error_iff`, `Operator.read_eq_error_iff`: texts.
* `Clause.make_eq_error_iff`: parts which do not agree in type.
-/

namespace Interlock

variable {text : String} {err : Error}

theorem Connector.read_eq_error_iff : read text = .error err ↔
    ofWords? ((Text.words text.toList).map String.ofList) = none ∧
      err = { cause := .invalidConnector text } := by
  rw [read]
  split
  · next h => simp [h]
  · next h => rw [h, Except.error.injEq, eq_comm, eq_self, true_and]

theorem Operand.read_eq_error_iff : read text = .error err ↔
    (∀ o, read text ≠ .ok o) ∧ err = { cause := .invalidOperand text } := by
  refine eq_error_iff_of_single fun err h => ?_
  simp only [read] at h
  split at h
  · cases h
  · exact (Except.error.inj h).symm

/-- A phrase is no comparison, or one which cannot compare values of the type. -/
theorem Operator.read_eq_error_iff {t : ValueType} : read text t = .error err ↔
    phrase? ((Text.words text.toList).map String.ofList) = none ∧
        err = { cause := .unknownOperator text } ∨
      ∃ c n, phrase? ((Text.words text.toList).map String.ofList) = some (c, n) ∧
        c.supports t = false ∧ err = { cause := .unsupportedOperandType (c.phrase n) t } := by
  rw [read]
  split
  · next c n h =>
    rw [make, h]
    split
    · next hs =>
      constructor
      · rintro ⟨⟩
      · rintro (⟨⟨⟩, -⟩ | ⟨_, _, ⟨⟩, hs', -⟩)
        exact absurd hs (by simp [hs'])
    · next hs =>
      constructor
      · rintro ⟨⟩
        exact .inr ⟨c, n, rfl, by simpa using hs, rfl⟩
      · rintro (⟨⟨⟩, -⟩ | ⟨_, _, ⟨⟩, -, rfl⟩)
        rfl
  · next h =>
    rw [h, Except.error.injEq, eq_comm]
    simp

theorem Clause.make_eq_error_iff {l r : Operand} {o : Operator} {k : Option Connector} :
    make l o r k = .error err ↔
      l.type ≠ r.type ∧ err = { cause := .incompatibleOperandTypes l.type r.type } ∨
        l.type = r.type ∧ o.type ≠ l.type ∧
          err = { cause := .unsupportedOperandType o.phrase l.type } := by
  rw [make]
  split
  · next h =>
    rw [Except.error.injEq, eq_comm]
    simp [h]
  · next h =>
    have htypes : l.type = r.type := Decidable.not_not.1 h
    split
    · next ho =>
      rw [Except.error.injEq, eq_comm]
      simp [htypes, htypes ▸ ho]
    · next ho => simp [htypes, htypes ▸ Decidable.not_not.1 ho]

end Interlock
