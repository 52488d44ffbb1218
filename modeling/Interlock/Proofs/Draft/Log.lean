import Interlock.Proofs.Draft.Step

/-!
# The log of a draft

What came of the calls of a draft, one after the other. A call which failed leaves no trace: without
it, the same draft comes out, and the same comes of all other calls.

* `Draft.log`: the calls with what came of each. `Draft.accepted`: the calls which succeeded.
* `Draft.taken`: the number of tokens among these.
* `Draft.run_accepted`, `Draft.log_accepted`: the calls which failed may be left out.
-/

namespace Interlock

namespace Draft

/-- The call takes a token of the predicate. -/
def Call.isToken : Call → Bool
  | .feed _ => true
  | _ => false

/-- The calls with what came of each. -/
def log (d : Draft) (cs : List Call) : List (Call × Traced Unit) := cs.zip (d.run cs).2

/-- The calls which succeeded. -/
def accepted (d : Draft) (cs : List Call) : List Call :=
  ((d.log cs).filter fun entry => entry.2.result.isOk).map Prod.fst

/-- The number of tokens which were taken. -/
def taken (d : Draft) (cs : List Call) : Nat := (d.accepted cs).countP Call.isToken

@[simp] theorem run_nil (d : Draft) : d.run [] = (d, []) := rfl

@[simp] theorem log_nil (d : Draft) : d.log [] = [] := rfl

@[simp] theorem accepted_nil (d : Draft) : d.accepted [] = [] := rfl

theorem run_cons (d : Draft) (c : Call) (cs : List Call) :
    (d.run (c :: cs)).1 = ((d.apply c).1.run cs).1 := rfl

theorem log_cons (d : Draft) (c : Call) (cs : List Call) :
    d.log (c :: cs) = (c, (d.apply c).2) :: (d.apply c).1.log cs := rfl

/-- A call either fails and leaves the draft as it was, or it is accepted. -/
theorem accepted_cons (d : Draft) (c : Call) (cs : List Call) :
    (∃ err, (d.apply c).2.result = .error err ∧ (d.apply c).1 = d ∧
        d.accepted (c :: cs) = d.accepted cs) ∨
      (d.apply c).2.result = .ok () ∧ d.accepted (c :: cs) = c :: (d.apply c).1.accepted cs := by
  rcases h : (d.apply c).2.result with err | u
  · have hd := apply_of_error h
    refine .inl ⟨err, rfl, hd, ?_⟩
    simp [accepted, log_cons, h, Except.isOk, Except.toBool, hd]
  · refine .inr ⟨rfl, ?_⟩
    simp [accepted, log_cons, h, Except.isOk, Except.toBool]

/-! ## Calls which fail -/

/-- The calls which succeed lead to the same draft without those which fail. -/
theorem run_accepted (d : Draft) (cs : List Call) :
    (d.run (d.accepted cs)).1 = (d.run cs).1 := by
  induction cs generalizing d with
  | nil => rfl
  | cons c cs ih =>
    rcases accepted_cons d c cs with ⟨err, -, hd, heq⟩ | ⟨-, heq⟩
    · rw [heq, ih, run_cons, hd]
    · rw [heq, run_cons, ih, run_cons]

/-- The same comes of the calls which succeed without those which fail. -/
theorem log_accepted (d : Draft) (cs : List Call) :
    d.log (d.accepted cs) = (d.log cs).filter fun entry => entry.2.result.isOk := by
  induction cs generalizing d with
  | nil => rfl
  | cons c cs ih =>
    rcases accepted_cons d c cs with ⟨err, herr, hd, heq⟩ | ⟨hok, heq⟩
    · rw [heq, ih, log_cons, List.filter_cons_of_neg, hd]
      simp [herr, Except.isOk, Except.toBool]
    · rw [heq, log_cons, ih, log_cons, List.filter_cons_of_pos]
      simp [hok, Except.isOk, Except.toBool]

end Draft

end Interlock
