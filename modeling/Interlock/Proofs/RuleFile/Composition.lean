import Interlock.Proofs.Rule.Evaluation
import Interlock.Proofs.RuleFile.Lines
import Interlock.Proofs.Text.Lines

/-!
# Rule files put one behind the other

The reading of a rule file ends at the first statement which is refused, and names it by its number
among all lines. So a text which ends in a line feed can be followed by another text: the rules of
the one are followed by those of the other, and an error in the other is found as many lines later
as the one has. An error in the first text stands as it is.

* `Error.linesLater`: an error which is found later.
* `RuleFile.result_readFrom_append`: lines behind other lines. `RuleFile.result_readFrom_add`: lines
  with other numbers. `RuleFile.result_read_append`: texts behind other texts.
* `RuleFile.read_composes`: what the reading of a text comes to, and of two texts.
-/

namespace Interlock

/-- The same error, found this number of lines later. -/
def Error.linesLater (e : Error) (m : Nat) : Error :=
  { e with place := e.place.map fun p => { p with line := p.line.map (· + m) } }

namespace RuleFile

variable {o : Options}

/-! ## Lines -/

/-- Lines behind other lines are read if these are, with the numbers behind theirs. -/
theorem result_readFrom_append (n : Nat) (ls ls' : List String) :
    (readFrom o n (ls ++ ls')).result = (do
      let rules ← (readFrom o n ls).result
      (readFrom o (n + ls.length) ls').result.map (rules ++ ·)) := by
  induction ls generalizing n with
  | nil => exact (congrFun Except.map_id (readFrom o n ls').result).symm
  | cons line ls ih =>
    have hlength : n + (line :: ls).length = n + 1 + ls.length := by
      rw [List.length_cons]
      omega
    rw [List.cons_append, hlength]
    by_cases h : o.takes line
    · rw [result_readFrom_of_takes h, result_readFrom_of_takes h, bind_assoc]
      refine bind_congr_of_ok fun rule _ => ?_
      rw [ih, map_bind, bind_map]
      refine bind_congr_of_ok fun rules _ => ?_
      rcases (readFrom o (n + 1 + ls.length) ls').result with e | rules' <;> rfl
    · rw [result_readFrom_of_not_takes h, result_readFrom_of_not_takes h, ih]

/-- The numbers of the lines matter for the place of an error alone. -/
theorem result_readFrom_add (m n : Nat) (ls : List String) :
    (readFrom o (n + m) ls).result = (readFrom o n ls).result.mapError (·.linesLater m) := by
  induction ls generalizing n with
  | nil => rfl
  | cons line ls ih =>
    by_cases h : o.takes line
    · rw [result_readFrom_of_takes h, result_readFrom_of_takes h, Nat.add_right_comm, ih]
      rcases (Rule.read line).result with e | rule
      · rfl
      · rcases (readFrom o (n + 1) ls).result with e | rules <;> rfl
    · rw [result_readFrom_of_not_takes h, result_readFrom_of_not_takes h, Nat.add_right_comm, ih]

/-! ## Texts -/

/-- A text which ends in a line feed is read first, and then the text behind it. -/
theorem result_read_append {u : String} (hu : u = "" ∨ ∃ w, u = w ++ "\n") (v : String) :
    (read o (u ++ v)).result = (do
      let rules ← (read o u).result
      ((read o v).result.mapError (·.linesLater (Text.lines u).length)).map (rules ++ ·)) := by
  rw [result_read, result_read, result_read, Text.lines_append hu, result_readFrom_append,
    result_readFrom_add]

/-- With any options, a text is read just if every statement in it is read, and then its rules are
    those of the statements in their order. Else the error is that of the first statement which is
    refused, with the number of its line among all lines and the name of the source. And of two
    texts, the first of which is empty or ends in a line feed, the first is read as by itself, and
    the second too, except for the numbers of its lines. -/
theorem read_composes (o : Options) :
    (∀ text rules, (read o text).result = .ok rules ↔ AreRead (statements o text) rules) ∧
      (∀ text err, (read o text).result = .error err ↔
        ∃ before line behind, Text.lines text = before ++ line :: behind ∧
          (∀ l ∈ before, o.takes l → ∃ r, (Rule.read l).result = .ok r) ∧
          o.Refuses (before.length + 1) line err) ∧
      ∀ u v : String, (u = "" ∨ ∃ w, u = w ++ "\n") →
        (∀ rules, (read o u).result = .ok rules →
          (∀ rules', (read o v).result = .ok rules' →
            (read o (u ++ v)).result = .ok (rules ++ rules')) ∧
          ∀ err, (read o v).result = .error err →
            (read o (u ++ v)).result = .error (err.linesLater (Text.lines u).length)) ∧
        ∀ err, (read o u).result = .error err → (read o (u ++ v)).result = .error err := by
  refine ⟨fun text rules => read_eq_ok_iff, fun text err => ?_, fun u v hu => ?_⟩
  · simp only [result_read, readFrom_eq_error_iff, Nat.add_comm 1]
  · refine ⟨fun rules hrules => ⟨fun rules' hrules' => ?_, fun err herr => ?_⟩, fun err herr => ?_⟩
    · rw [result_read_append hu, hrules, hrules']
      rfl
    · rw [result_read_append hu, hrules, herr]
      rfl
    · rw [result_read_append hu, herr]
      rfl

/-- A comment, whose line ends in two characters, and a statement. -/
def firstPart : String :=
  "# one cell, one agent\r\nACTION a IS BLOCKED BY ACTION b IF a.dest IS b.dest" ++ "\n"

/-- A blank line, and a statement without its last operand, in a line which is not ended. -/
def secondPart : String := " \nACTION a IS BLOCKED IF a.name IS"

/-- The second part fails at its second line, which is the fourth one behind the two lines of the
    first part. The first part can be repeated, and cannot mend a text which fails before it. -/
theorem read_composes_parts :
    let o : Options := { source := some "level" }
    let refused (line : Nat) : Error :=
      { cause := .malformedPredicate "a.name IS" Statement.predicatePattern
          "expected operand, found end of input at column 10"
        place := some { source := some "level", line := some line } }
    (read o firstPart).result = .ok [.sameCell] ∧
      (read o (firstPart ++ firstPart)).result = .ok [.sameCell, .sameCell] ∧
      (read o secondPart).result = .error (refused 2) ∧
      (read o (firstPart ++ secondPart)).result = .error (refused 4) ∧
      (read o (secondPart ++ "\n" ++ firstPart)).result = .error (refused 2) := by
  intro o refused
  have hfirst : (read o firstPart).result = .ok [.sameCell] := by decide +kernel
  have hsecond : (read o secondPart).result = .error (refused 2) := by decide +kernel
  have hended : (read o (secondPart ++ "\n")).result = .error (refused 2) := by decide +kernel
  have hlines : (Text.lines firstPart).length = 2 := by decide +kernel
  have hseam : firstPart = "" ∨ ∃ w, firstPart = w ++ "\n" := .inr ⟨_, rfl⟩
  obtain ⟨-, -, hcompose⟩ := read_composes o
  have hbehind := (hcompose firstPart secondPart hseam).1 _ hfirst
  refine ⟨hfirst, ((hcompose _ _ hseam).1 _ hfirst).1 _ hfirst, hsecond, ?_,
    (hcompose _ firstPart (.inr ⟨secondPart, rfl⟩)).2 _ hended⟩
  have herr := hbehind.2 _ hsecond
  rwa [hlines] at herr

end RuleFile

end Interlock
