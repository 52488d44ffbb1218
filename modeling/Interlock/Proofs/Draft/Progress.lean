import Interlock.Proofs.Clause.Refusal
import Interlock.Proofs.Draft.Log
import Interlock.Proofs.Draft.Play

/-!
# How far a draft has come

Whatever calls a draft gets, the number of tokens which it has taken says how far it has come: its
stage, the number of its clauses, and which parts of an open clause it holds. The errors of a draft
which holds something else are never met.

* `Draft.Coherent`: the draft has come as far as a number of tokens takes it.
* `Draft.Coherent.grows`, `Draft.Coherent.apply`, `Draft.Coherent.run`: calls keep the invariant.
* `Draft.Coherent.feed_ne_unexpected`, `Draft.Coherent.predicate_eq_error_iff`,
  `Draft.Coherent.exists_toRule_iff`: the errors which are left, and when there is a rule.
-/

namespace Interlock

open Text

theorem Stage.idxOf_next (s : Stage) : all.idxOf s.next = (all.idxOf s + 1) % 4 := by
  cases s <;> rfl

namespace Draft

/-- The draft has come as far as `n` tokens take it. -/
structure Coherent (d : Draft) (n : Nat) : Prop where
  stage : Stage.all.idxOf d.stage = n % 4
  length : d.clauses.length = (n + 1) / 4
  clause : ∀ k c, d.clauses[k]? = some c → (c.connector.isSome ↔ 0 < k) ∧ c.WellTyped
  left : d.left.isSome ↔ d.stage = .operator ∨ d.stage = .right
  operator : d.operator.isSome ↔ d.stage = .right
  connector : d.connector.isSome ↔ d.stage ≠ .connector ∧ d.clauses ≠ []

theorem coherent_empty : empty.Coherent 0 where
  stage := rfl
  length := rfl
  clause := by simp [empty]
  left := by simp [empty]
  operator := by simp [empty]
  connector := by simp [empty]

variable {d e : Draft} {n : Nat}

/-! ## What the stage says -/

theorem Coherent.stage_eq_connector_iff (h : d.Coherent n) : d.stage = .connector ↔ n % 4 = 3 := by
  rw [← h.stage]
  cases d.stage <;> simp [Stage.all]

theorem Coherent.clauses_ne_nil (h : d.Coherent n) (hd : d.stage = .connector) :
    d.clauses ≠ [] := by
  rw [← List.length_pos_iff, h.length]
  have := h.stage_eq_connector_iff.1 hd
  omega

/-- Only a right operand closes a clause. -/
theorem Coherent.length_succ (h : d.Coherent n) (hd : d.stage ≠ .right) :
    d.clauses.length = (n + 1 + 1) / 4 := by
  have hlength := h.length
  have hn : n % 4 ≠ 2 := by
    rw [← h.stage]
    revert hd
    cases d.stage <;> simp [Stage.all]
  omega

/-! ## What keeps the invariant -/

theorem Grows.stage_eq (h : d.Grows e) : e.stage = d.stage.next := by
  cases h with
  | left o hd => rw [hd, Stage.next]
  | operator o hd hl => rw [hd, Stage.next]
  | right c hd hk hc => rw [hd, Stage.next, close]
  | connector k hd => rw [hd, Stage.next]

/-- One more token leads one stage further. -/
theorem Coherent.grows (h : d.Coherent n) (he : d.Grows e) : e.Coherent (n + 1) := by
  have hstage : Stage.all.idxOf e.stage = (n + 1) % 4 := by
    rw [he.stage_eq, Stage.idxOf_next, h.stage]
    omega
  cases he with
  | left o hd =>
    refine { h with stage := hstage, length := ?_, left := ?_, operator := ?_, connector := ?_ }
    · exact h.length_succ (by simp [hd])
    · simp
    · simpa [hd] using h.operator
    · simpa [hd] using h.connector
  | operator o hd hl =>
    refine { h with stage := hstage, length := ?_, left := ?_, operator := ?_, connector := ?_ }
    · exact h.length_succ (by simp [hd])
    · simpa [hd] using h.left
    · simp
    · simpa [hd] using h.connector
  | right c hd hk hc =>
    -- The draft holds a connector for the new clause just if there is a clause before it.
    have hconnector : c.connector.isSome ↔ 0 < d.clauses.length := by
      rw [hk, h.connector, hd, List.length_pos_iff]
      simp
    refine ⟨hstage, ?_, ?_, by simp [close], by simp [close], by simp [close]⟩
    · have hlength := h.length
      have hn : 2 = n % 4 := by rw [← h.stage, hd]; rfl
      simp only [close, List.length_append, List.length_singleton]
      omega
    · intro k c' hc'
      rcases getElem?_concat_eq_some_iff.1 hc' with hc' | ⟨rfl, rfl⟩
      · exact h.clause k c' hc'
      · exact ⟨hconnector, hc⟩
  | connector k hd =>
    have hne : d.clauses ≠ [] := h.clauses_ne_nil hd
    refine { h with stage := hstage, length := ?_, left := ?_, operator := ?_, connector := ?_ }
    · exact h.length_succ (by simp [hd])
    · simpa [hd] using h.left
    · simpa [hd] using h.operator
    · simpa using hne

/-- A call which succeeds keeps the invariant, with one more token if it took one. -/
theorem Coherent.apply (h : d.Coherent n) {c : Call} (hok : (d.apply c).2.result = .ok ()) :
    (d.apply c).1.Coherent (n + if c.isToken then 1 else 0) := by
  cases c with
  | declare key name =>
    rcases declare_cases d key name with ⟨err, heq⟩ | ⟨slot, heq⟩
    · rw [Draft.apply, heq] at hok
      cases hok
    · rw [Draft.apply, heq]
      cases slot <;> exact { h with }
  | feed token =>
    rcases feed_cases d token with ⟨err, heq⟩ | ⟨e, he, heq⟩
    · rw [Draft.apply, heq] at hok
      cases hok
    · rw [Draft.apply, heq]
      exact h.grows he
  | bind slot a => cases slot <;> exact { h with }

/-- After any calls, the draft has come as far as the tokens that it has taken. -/
theorem Coherent.run (h : d.Coherent n) (cs : List Call) :
    (d.run cs).1.Coherent (n + d.taken cs) := by
  induction cs generalizing d n with
  | nil => exact h
  | cons c cs ih =>
    rw [run_cons]
    rcases accepted_cons d c cs with ⟨err, -, hd, heq⟩ | ⟨hok, heq⟩
    · rw [taken, heq, hd]
      exact ih h
    · rw [taken, heq, List.countP_cons, ← Nat.add_assoc, Nat.add_right_comm]
      exact ih (h.apply hok)

/-! ## What follows from it -/

/-- The clauses which are closed are joined. -/
theorem Coherent.joined (h : d.Coherent n) (hne : d.clauses ≠ []) : Joined d.clauses := by
  have hclause := h.clause
  generalize d.clauses = cs at hclause hne
  rcases cs with - | ⟨c, cs⟩
  · exact absurd rfl hne
  · refine ⟨by simpa using (hclause 0 c rfl).1, fun c' hc' => ?_⟩
    obtain ⟨k, hk⟩ := List.getElem?_of_mem hc'
    exact Option.isSome_iff_ne_none.1 ((hclause (k + 1) c' hk).1.2 (Nat.succ_pos k))

theorem Coherent.predicate_eq (h : d.Coherent n) (hne : d.clauses ≠ []) :
    d.predicate = .ok ⟨d.clauses, h.joined hne⟩ :=
  Predicate.make_eq_ok_iff.2 rfl

/-- Every stage has what the token before it left behind. -/
theorem Coherent.feed_ne_unexpected (h : d.Coherent n) (token stage text : String)
    (place : Option Place) :
    (d.feed token).2.result ≠ .error ⟨.unexpectedToken stage text, place⟩ := by
  intro herr
  replace herr : d.after (.feed token) = _ := after_eq_error_iff.2 herr
  rcases hblank : isBlankText token
  · rcases hd : d.stage
    · rw [after_feed_left hd hblank, map_eq_error_iff, Operand.read_eq_error_iff] at herr
      cases herr.2
    · obtain ⟨l, hl⟩ := Option.isSome_iff_exists.1 (h.left.2 (.inl hd))
      rw [after_feed_operator hd hl hblank, map_eq_error_iff, Operator.read_eq_error_iff] at herr
      rcases herr with ⟨-, ⟨⟩⟩ | ⟨_, _, -, -, ⟨⟩⟩
    · obtain ⟨l, hl⟩ := Option.isSome_iff_exists.1 (h.left.2 (.inr hd))
      obtain ⟨o, ho⟩ := Option.isSome_iff_exists.1 (h.operator.2 hd)
      rw [after_feed_right hd hl ho hblank, bind_eq_error_iff, Operand.read_eq_error_iff] at herr
      rcases herr with ⟨-, ⟨⟩⟩ | ⟨r, -, hmake⟩
      rw [map_eq_error_iff, Clause.make_eq_error_iff] at hmake
      rcases hmake with ⟨-, ⟨⟩⟩ | ⟨-, -, ⟨⟩⟩
    · rw [after_feed_connector hd hblank, map_eq_error_iff, Connector.read_eq_error_iff] at herr
      cases herr.2
  · rw [after, Draft.apply, feed, if_pos hblank] at herr
    cases herr

/-- There is a predicate as soon as a clause is closed. -/
theorem Coherent.predicate_eq_error_iff (h : d.Coherent n) {err : Error} :
    d.predicate = .error err ↔ d.clauses = [] ∧ err = { cause := .incompletePredicate } := by
  by_cases hne : d.clauses = []
  · rw [predicate, hne, Predicate.make, dif_pos rfl, Except.error.injEq, eq_comm]
    simp
  · simp [h.predicate_eq hne, hne]

/-- There is a rule just if the last token closed a clause and the names are in order. -/
theorem Coherent.exists_toRule_iff (h : d.Coherent n) : (∃ r, d.toRule = .ok r) ↔
    n % 4 = 3 ∧ d.requestingName.isSome ∧ ∀ c ∈ d.clauses, ∀ m ∈ c.names, d.declares m := by
  simp only [toRule_eq_ok_iff, ← h.stage_eq_connector_iff]
  constructor
  · rintro ⟨r, hterminal, hk, hrequesting, hrestricting, hclauses, hnames⟩
    -- At the first stage the draft has no clause yet, or it holds the connector of the next one.
    have hstage : d.stage = .connector := by
      by_contra hne
      have hsome := h.connector.2 ⟨hne, hclauses ▸ r.predicate.clauses_ne_nil⟩
      simp [hk] at hsome
    refine ⟨hstage, by simp [hrequesting], fun c hc m hm => ?_⟩
    rw [declares_iff, hrequesting, hrestricting]
    exact (hnames c (hclauses ▸ hc) m hm).imp_left fun h => by rw [h]
  · rintro ⟨hstage, hrequesting, hnames⟩
    obtain ⟨requesting, hrequesting⟩ := Option.isSome_iff_exists.1 hrequesting
    have hk : d.connector = none := by
      rw [← Option.not_isSome_iff_eq_none, h.connector]
      simp [hstage]
    refine ⟨⟨requesting, d.restrictingName, d.clauses, h.joined (h.clauses_ne_nil hstage)⟩,
      by rw [hstage]; rfl, hk,
      hrequesting, rfl, rfl, fun c hc m hm => ?_⟩
    have hm := declares_iff.1 (hnames c hc m hm)
    rw [hrequesting] at hm
    exact hm.imp_left fun h => (Option.some.inj h).symm

/-- However a draft came about, the tokens that it has taken say how far it has come. So no token is
    refused as unexpected, a predicate is missing only as long as no clause is closed, and there is
    a rule just if the last token closed a clause and the names are in order. -/
theorem coherent_run (calls : List Call) :
    let d := (empty.run calls).1
    let n := empty.taken calls
    d.Coherent n ∧
      (∀ token stage text place,
        (d.feed token).2.result ≠ .error ⟨.unexpectedToken stage text, place⟩) ∧
      (∀ err, d.predicate = .error err ↔
        d.clauses = [] ∧ err = { cause := .incompletePredicate }) ∧
      ((∃ r, d.toRule = .ok r) ↔ n % 4 = 3 ∧ d.requestingName.isSome ∧
        ∀ c ∈ d.clauses, ∀ m ∈ c.names, d.declares m) := by
  have h := coherent_empty.run calls
  rw [Nat.zero_add] at h
  exact ⟨h, h.feed_ne_unexpected, fun err => h.predicate_eq_error_iff, h.exists_toRule_iff⟩

/-- A token which is refused does not count. -/
example : empty.taken [.feed "a.dest", .feed "IS LESS THAN", .feed "IS"] = 2 := by decide

end Draft

end Interlock
