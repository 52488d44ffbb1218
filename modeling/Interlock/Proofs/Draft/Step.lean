import Interlock.Draft
import Interlock.Proofs.Result

/-!
# One call of a draft

What a call can do to a draft: it leads to another draft, in one of the ways listed here, or it is
refused and leaves the draft as it was.

* `Draft.Grows`: the drafts to which a token can lead. `Draft.feed_cases`: a token leads to one of
  them, or is refused. `Draft.declare_cases`: the same for a declaration.
* `Draft.apply_of_error`: a call which is refused leaves the draft as it was.
* `Draft.after`: the draft to which a call leads. `Draft.after_feed_left`,
  `Draft.after_feed_operator`, `Draft.after_feed_right` and `Draft.after_feed_connector`: the same
  for a token at each stage, from the texts that it is read as.
* `Draft.play_cons`, `Draft.play_append`: a sequence of calls is played call by call.
-/

namespace Interlock

open Text

namespace Draft

variable {d e : Draft} {token : String} {err : Error}

/-! ## What a call can do -/

/-- The draft with one more clause. -/
def close (d : Draft) (c : Clause) : Draft :=
  { d with
    stage := .connector, left := none, operator := none, connector := none,
    clauses := d.clauses ++ [c] }

/-- The drafts to which a token can lead. -/
inductive Grows (d : Draft) : Draft → Prop
  | left (o : Operand) (hd : d.stage = .left) :
    Grows d { d with left := some o, stage := .operator }
  | operator (o : Operator) (hd : d.stage = .operator) (hl : d.left.isSome) :
    Grows d { d with operator := some o, stage := .right }
  /-- The clause has the connector which the draft holds, and its types agree. -/
  | right (c : Clause) (hd : d.stage = .right) (hk : c.connector = d.connector)
    (hc : c.WellTyped) : Grows d (d.close c)
  | connector (k : Connector) (hd : d.stage = .connector) :
    Grows d { d with connector := some k, stage := .left }

theorem connector_of_make {l r : Operand} {o : Operator} {k : Option Connector} {c : Clause}
    (h : Clause.make l o r k = .ok c) : c.connector = k := by
  rw [Clause.make] at h
  split at h
  · cases h
  · split at h <;> cases h
    rfl

/-- A token is refused, or leads to one of the drafts to which a token can lead. -/
theorem feed_cases (d : Draft) (token : String) : (∃ err, d.feed token = (d, .fail err)) ∨
    ∃ e, d.Grows e ∧ d.feed token = (e, .emit (.tokenTaken token d.stage e.stage)) := by
  rw [feed]
  split
  · exact .inl ⟨_, rfl⟩
  · split
    · next hd =>
      split
      · exact .inl ⟨_, rfl⟩
      · next o ho => exact .inr ⟨_, .left o hd, by rw [advance, hd]; rfl⟩
    · next hd =>
      split
      · exact .inl ⟨_, rfl⟩
      · next l hl =>
        split
        · exact .inl ⟨_, rfl⟩
        · next o ho => exact .inr ⟨_, .operator o hd (by simp [hl]), by rw [advance, hd]; rfl⟩
    -- The right operand closes the clause, if the types of the three parts agree.
    · next hd =>
      split
      · exact .inl ⟨_, rfl⟩
      · split
        · split
          · exact .inl ⟨_, rfl⟩
          · next c hc =>
            refine .inr ⟨_, .right c hd (connector_of_make hc) (Clause.wellTyped_of_make hc), ?_⟩
            rw [advance, hd]
            rfl
        · exact .inl ⟨_, rfl⟩
    · next hd =>
      split
      · exact .inl ⟨_, rfl⟩
      · next k hk => exact .inr ⟨_, .connector k hd, by rw [advance, hd]; rfl⟩

/-- A declaration is refused, or gives a slot its name. -/
theorem declare_cases (d : Draft) (key name : String) :
    (∃ err, d.declare key name = (d, .fail err)) ∨
      ∃ slot, d.declare key name = (d.setName slot name, .emit (.nameDeclared key name)) := by
  rw [declare]
  split
  · exact .inl ⟨_, rfl⟩
  · next slot _ =>
    split
    · exact .inl ⟨_, rfl⟩
    · split
      · exact .inl ⟨_, rfl⟩
      · split
        · exact .inl ⟨_, rfl⟩
        · exact .inr ⟨slot, rfl⟩

/-- A call which is refused leaves the draft as it was. -/
theorem apply_of_error {c : Call} (h : (d.apply c).2.result = .error err) : (d.apply c).1 = d := by
  cases c with
  | declare key name =>
    rcases declare_cases d key name with ⟨err', heq⟩ | ⟨slot, heq⟩
    · rw [apply, heq]
    · rw [apply, heq] at h
      cases h
  | feed token =>
    rcases feed_cases d token with ⟨err', heq⟩ | ⟨e, -, heq⟩
    · rw [apply, heq]
    · rw [apply, heq] at h
      cases h
  | bind slot a => cases h

/-! ## What a call leads to -/

/-- The draft to which a call leads, or why it is refused. -/
def after (d : Draft) (c : Call) : Except Error Draft :=
  (d.apply c).2.result.map fun _ => (d.apply c).1

theorem after_eq_error_iff {c : Call} :
    d.after c = .error err ↔ (d.apply c).2.result = .error err := by
  rw [after]
  rcases (d.apply c).2.result with e | u <;> simp [Except.map]

theorem after_feed_left (hd : d.stage = .left) (ht : isBlankText token = false) :
    d.after (.feed token) =
      (Operand.read token).map fun o => { d with left := some o, stage := .operator } := by
  rw [after, apply, feed, if_neg (by simp [ht]), hd]
  rcases Operand.read token with err | o
  · rfl
  · rfl

theorem after_feed_operator {l : Operand} (hd : d.stage = .operator) (hl : d.left = some l)
    (ht : isBlankText token = false) : d.after (.feed token) =
      (Operator.read token l.type).map fun o => { d with operator := some o, stage := .right } := by
  rw [after, apply, feed, if_neg (by simp [ht]), hd]
  simp only [hl]
  rcases Operator.read token l.type with err | o
  · rfl
  · rfl

theorem after_feed_right {l : Operand} {o : Operator} (hd : d.stage = .right)
    (hl : d.left = some l) (ho : d.operator = some o) (ht : isBlankText token = false) :
    d.after (.feed token) = (do
      let r ← Operand.read token
      (Clause.make l o r d.connector).map d.close) := by
  rw [after, apply, feed, if_neg (by simp [ht]), hd]
  rcases Operand.read token with err | r
  · rfl
  · simp only [hl, ho]
    rcases hmake : Clause.make l o r d.connector with err | c
    · simp [hmake, Traced.fail, bind, Except.bind, Except.map]
    · simp [hmake, advance, Traced.emit, close, Stage.next, bind, Except.bind, Except.map]

theorem after_feed_connector (hd : d.stage = .connector) (ht : isBlankText token = false) :
    d.after (.feed token) =
      (Connector.read token).map fun k => { d with connector := some k, stage := .left } := by
  rw [after, apply, feed, if_neg (by simp [ht]), hd]
  rcases Connector.read token with err | k
  · rfl
  · rfl

/-! ## Sequences of calls -/

theorem play_cons (d : Draft) (c : Call) (cs : List Call) :
    (d.play (c :: cs)).result = d.after c >>= fun e => (e.play cs).result := by
  rw [play, Traced.result_bind, after]
  rcases (d.apply c).2.result with err | u
  · rfl
  · rfl

theorem play_append (d : Draft) (cs cs' : List Call) :
    (d.play (cs ++ cs')).result = (d.play cs).result >>= fun e => (e.play cs').result := by
  induction cs generalizing d with
  | nil => rfl
  | cons c cs ih => simp only [List.cons_append, play_cons, ih, bind_assoc]

end Draft

end Interlock
