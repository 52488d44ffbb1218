import Interlock.Proofs.Rule.Evaluation
import Interlock.Proofs.Rule.RoundTrip
import Mathlib.Logic.Basic

/-!
# What operators compare

An operator is made for one type, and compares values of this type and no others. What it says of
them is the relation of its comparison, or the negation of it: two values are the same, a number is
less or greater than another one, or two edges share an endpoint. A phrase is read as an operator
just where its words are those of a comparison which supports the type.

* `Edge.overlaps_iff`, `Edge.overlaps_reverse`: the endpoints of edges, whichever way they are
  directed.
* `Comparison.Holds`: the relations. `Comparison.compare?_iff`: what a comparison says of values.
* `Operator.exists_apply_iff`, `Operator.apply_iff`, `Operator.apply_eq_error_iff`: an operator has
  a result for the values of its type, and names the first other one.
* `Operator.exists_read_iff`, `Operator.read_phrase`: the phrases of operators.
-/

namespace Interlock

/-! ## Edges -/

namespace Edge

/-- The cells at which the edge begins and ends. -/
def endpoints (e : Edge) : List Vertex := [e.origin, e.destination]

/-- The edge in the other direction. -/
def reverse (e : Edge) : Edge := ⟨e.destination, e.origin⟩

theorem overlaps_iff {e f : Edge} : e.overlaps f ↔ ∃ cell ∈ e.endpoints, cell ∈ f.endpoints := by
  simp only [overlaps, endpoints, Bool.or_eq_true, beq_iff_eq, List.mem_cons, List.not_mem_nil,
    or_false, exists_eq_or_imp, exists_eq_left]
  constructor
  · rintro (((h | h) | h) | h) <;> simp [h]
  · rintro ((h | h) | h | h) <;> simp [h]

theorem mem_endpoints_reverse {e : Edge} {cell : Vertex} :
    cell ∈ e.reverse.endpoints ↔ cell ∈ e.endpoints := by
  simp [endpoints, reverse, or_comm]

theorem overlaps_reverse (e f : Edge) : e.reverse.overlaps f = e.overlaps f := by
  rw [Bool.eq_iff_iff, overlaps_iff, overlaps_iff]
  simp only [mem_endpoints_reverse]

end Edge

/-! ## Comparisons -/

namespace Comparison

/-- The relation for which a comparison asks. -/
inductive Holds : Comparison → Value → Value → Prop
  | is (v : Value) : Holds .is v v
  | lessThan {m n : Int64} (h : m.toInt < n.toInt) : Holds .lessThan (.number m) (.number n)
  | moreThan {m n : Int64} (h : n.toInt < m.toInt) : Holds .moreThan (.number m) (.number n)
  | overlapsWith {e f : Edge} {cell : Vertex} (he : cell ∈ e.endpoints)
    (hf : cell ∈ f.endpoints) : Holds .overlapsWith (.edge e) (.edge f)

variable {c : Comparison} {l r : Value}

theorem holds_is_iff : Holds .is l r ↔ l = r := by
  constructor
  · rintro ⟨⟩
    rfl
  · rintro rfl
    exact .is l

theorem holds_overlapsWith_iff {e f : Edge} :
    Holds .overlapsWith (.edge e) (.edge f) ↔ e.overlaps f := by
  rw [Edge.overlaps_iff]
  constructor
  · rintro (_ | _ | _ | ⟨he, hf⟩)
    exact ⟨_, he, hf⟩
  · rintro ⟨cell, he, hf⟩
    exact .overlapsWith he hf

theorem compare?_iff {result : Bool} (h : c.compare? l r = some result) :
    result ↔ c.Holds l r := by
  unfold compare? at h
  split at h <;> cases h
  · simp [holds_is_iff]
  · simp [holds_is_iff]
  · simp [holds_is_iff]
  · rw [decide_eq_true_iff, Int64.lt_iff_toInt_lt]
    exact ⟨.lessThan, fun | .lessThan h => h⟩
  · rw [decide_eq_true_iff, gt_iff_lt, Int64.lt_iff_toInt_lt]
    exact ⟨.moreThan, fun | .moreThan h => h⟩
  · exact holds_overlapsWith_iff.symm

end Comparison

/-! ## Operators -/

namespace Operator

variable {o : Operator} {l r : Value}

/-- An operator has a result just for two values of its type. -/
theorem exists_apply_iff :
    (∃ result, o.apply l r = .ok result) ↔ l.type = o.type ∧ r.type = o.type := by
  constructor
  · rintro ⟨result, h⟩
    rw [apply] at h
    split at h
    · cases h
    · next hl =>
      split at h
      · cases h
      · next hr => exact ⟨not_not.1 hl, not_not.1 hr⟩
  · rintro ⟨hl, hr⟩
    exact exists_apply_eq hl hr

theorem apply_iff {result : Bool} (h : o.apply l r = .ok result) :
    result ↔ Xor (o.comparison.Holds l r) o.negated := by
  obtain ⟨hl, hr⟩ := exists_apply_iff.1 ⟨result, h⟩
  rw [apply, if_neg (not_not.2 hl), if_neg (not_not.2 hr)] at h
  split at h
  · next holds hcompare =>
    cases h
    rw [← Comparison.compare?_iff hcompare]
    cases holds <;> cases o.negated <;> simp [Xor]
  · cases h

/-- The error names the first of the two values which is of another type. -/
theorem apply_eq_error_iff {e : Error} : o.apply l r = .error e ↔
    l.type ≠ o.type ∧ e = { cause := .valueKindMismatch o.type l.type } ∨
      l.type = o.type ∧ r.type ≠ o.type ∧
        e = { cause := .valueKindMismatch o.type r.type } := by
  by_cases hl : l.type = o.type
  · by_cases hr : r.type = o.type
    · obtain ⟨result, h⟩ := exists_apply_eq hl hr
      simp [h, hl, hr]
    · rw [apply, if_neg (not_not.2 hl), if_pos hr]
      simp [hl, hr, mismatch, eq_comm]
  · rw [apply, if_pos hl]
    simp [hl, mismatch, eq_comm]

/-- It does not matter in which order two edges are given, nor in which direction. -/
theorem apply_edge (o : Operator) (e f : Edge) :
    o.apply (.edge f) (.edge e) = o.apply (.edge e) (.edge f) ∧
      o.apply (.edge e.reverse) (.edge f) = o.apply (.edge e) (.edge f) := by
  have happly {e' f' : Edge} (h : e'.overlaps f' = e.overlaps f) :
      o.apply (.edge e') (.edge f') = o.apply (.edge e) (.edge f) := by
    have hcompare : o.comparison.compare? (.edge e') (.edge f') =
        o.comparison.compare? (.edge e) (.edge f) := by
      cases o.comparison <;> simp [Comparison.compare?, h]
    rw [apply, hcompare]
    rfl
  exact ⟨happly (Edge.overlaps_comm f e), happly (Edge.overlaps_reverse e f)⟩

theorem make_eq_ok_iff {c : Comparison} {n : Bool} {t : ValueType} :
    make c n t = .ok o ↔ o.comparison = c ∧ o.negated = n ∧ o.type = t := by
  constructor
  · intro h
    rw [make] at h
    split at h <;> cases h
    exact ⟨rfl, rfl, rfl⟩
  · rintro ⟨rfl, rfl, rfl⟩
    rw [make, dif_pos o.supported]

/-- A text is read as an operator just where its words are a phrase, and the comparison supports the
    type. -/
theorem exists_read_iff {text : String} {t : ValueType} : (∃ o, read text t = .ok o) ↔
    ∃ c n, Comparison.Spells ((Text.words text.toList).map String.ofList) c n ∧ c.supports t := by
  simp only [read_eq_ok_iff_spells]
  constructor
  · rintro ⟨o, hspells, rfl⟩
    exact ⟨_, _, hspells, o.supported⟩
  · rintro ⟨c, n, hspells, hsupports⟩
    exact ⟨⟨c, n, t, hsupports⟩, hspells, rfl⟩

/-- The phrase of an operator is read as the operator. -/
theorem read_phrase (o : Operator) : read o.phrase o.type = .ok o := by
  obtain ⟨ws, hspells, hwords, hphrase⟩ := o.comparison.exists_phrase_eq o.negated
  rw [phrase, hphrase, read_eq_ok_iff hwords]
  exact ⟨hspells, rfl⟩

/-- An operator is its comparison on its type, and nothing else. It has a result just for two values
    of the type, and fails with the type of the first other value; the result is whether the values
    stand in the relation of the comparison, or the opposite if the operator is negated. Of two
    edges neither the order nor the directions matter. Every operator can be made of its parts and
    is read of its phrase; and a text is read just where its words are a phrase, and as the operator
    of this phrase, if the comparison supports the type. -/
theorem apply_and_read :
    (∀ (o : Operator) (l r : Value),
      ((∃ result, o.apply l r = .ok result) ↔ l.type = o.type ∧ r.type = o.type) ∧
      (∀ result : Bool, o.apply l r = .ok result ↔ l.type = o.type ∧ r.type = o.type ∧
        (result ↔ Xor (o.comparison.Holds l r) o.negated)) ∧
      ∀ e, o.apply l r = .error e ↔
        l.type ≠ o.type ∧ e = { cause := .valueKindMismatch o.type l.type } ∨
          l.type = o.type ∧ r.type ≠ o.type ∧
            e = { cause := .valueKindMismatch o.type r.type }) ∧
    (∀ (o : Operator) (e f : Edge), o.apply (.edge f) (.edge e) = o.apply (.edge e) (.edge f) ∧
      o.apply (.edge e.reverse) (.edge f) = o.apply (.edge e) (.edge f) ∧
      o.apply (.edge e) (.edge f.reverse) = o.apply (.edge e) (.edge f)) ∧
    (∀ o : Operator, make o.comparison o.negated o.type = .ok o ∧
      read o.phrase o.type = .ok o) ∧
    ∀ (text : String) (t : ValueType),
      ((∃ o, read text t = .ok o) ↔ ∃ c n,
        Comparison.Spells ((Text.words text.toList).map String.ofList) c n ∧ c.supports t) ∧
      ∀ o, read text t = .ok o ↔
        Comparison.Spells ((Text.words text.toList).map String.ofList) o.comparison o.negated ∧
          o.type = t := by
  refine ⟨fun o l r => ⟨exists_apply_iff, fun result => ?_, fun e => apply_eq_error_iff⟩,
    fun o e f => ⟨(apply_edge o e f).1, (apply_edge o e f).2, ?_⟩,
    fun o => ⟨make_eq_ok_iff.2 ⟨rfl, rfl, rfl⟩, read_phrase o⟩,
    fun text t => ⟨exists_read_iff, fun o => read_eq_ok_iff_spells⟩⟩
  · rw [← and_assoc, ← exists_apply_iff]
    constructor
    · intro h
      exact ⟨⟨result, h⟩, apply_iff h⟩
    · rintro ⟨⟨result', h⟩, hresult⟩
      -- The relation settles which of the two truth values is the result.
      rwa [Bool.eq_iff_iff.2 (hresult.trans (apply_iff h).symm)]
  · calc o.apply (.edge e) (.edge f.reverse)
      _ = o.apply (.edge f.reverse) (.edge e) := (apply_edge o f.reverse e).1
      _ = o.apply (.edge f) (.edge e) := (apply_edge o f e).2
      _ = o.apply (.edge e) (.edge f) := (apply_edge o e f).1

example : read " IS\tNOT  LESS THAN" .number = .ok ⟨.lessThan, true, .number, rfl⟩ := by
  decide +kernel

end Operator

end Interlock
