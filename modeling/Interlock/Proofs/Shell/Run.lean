import Interlock.Proofs.Shell.Line
import Interlock.Proofs.Text.Lines
import Interlock.Shell.Run

/-!
# A run over statements

Where no line is a command, a run of the shell goes to the end of its input, adds a rule for each
statement which can be read, and counts the others. The blanks at the ends of a line do not matter.

* `Rule.read?`: the rule as which a text is read, if it is one.
* `Shell.statements`, `Shell.accepted`, `Shell.refused`: the statements among some lines, the rules
  as which they are read, and those which are not read.
* `Shell.Enters`: the outcome after some lines. `Shell.enters_step`: one reading of a run.
* `Shell.HasEntered`: the outcome of a whole run. `Shell.hasEntered_run`: what a run comes to.
-/

namespace Interlock

open Text

/-! ## Statements -/

namespace Rule

variable {s t : String}

/-- The rule as which a text is read, if it is one. -/
def read? (s : String) : Option Rule := (read s).result.toOption

theorem read?_eq_some_iff {r : Rule} : read? s = some r ↔ (read s).result = .ok r := by
  rw [read?]
  rcases (read s).result with e | r
  · simp [Except.toOption]
  · simp [Except.toOption]

theorem read?_eq_none_iff : read? s = none ↔ ∃ e, (read s).result = .error e := by
  rw [read?]
  rcases (read s).result with e | r
  · simp [Except.toOption]
  · simp [Except.toOption]

theorem read?_congr (h : trim s.toList = trim t.toList) : read? s = read? t := by
  refine Option.ext fun r => ?_
  rw [read?_eq_some_iff, read?_eq_some_iff, read_eq_ok_iff, read_eq_ok_iff, h]

end Rule

namespace Shell

/-- The lines which are neither blank nor comments. -/
def statements (lines : List String) : List String :=
  lines.filter fun line => !isIdle (trim line.toList)

/-- The rules as which the statements among some lines are read. -/
def accepted (lines : List String) : List Rule := (statements lines).filterMap Rule.read?

/-- The statements among some lines which are not read. -/
def refused (lines : List String) : List String :=
  (statements lines).filter fun line => (Rule.read? line).isNone

/-! ## One line -/

/-- The rules of the lines have been added, and those which are not read have been counted. -/
structure Enters (lines : List String) (o o' : Outcome) : Prop where
  session : o'.session = { o.session with rules := o.session.rules ++ accepted lines }
  errors : o'.errors = o.errors + (refused lines).length
  reads : o'.reads = o.reads + lines.length
  failure : o'.failure = o.failure
  crashed : o'.crashed = o.crashed

variable {files : Files} {o o' o'' : Outcome} {line text : String} {lines xs ys : List String}

theorem accepted_append (xs ys : List String) :
    accepted (xs ++ ys) = accepted xs ++ accepted ys := by
  rw [accepted, statements, List.filter_append, List.filterMap_append]
  rfl

theorem refused_append (xs ys : List String) : refused (xs ++ ys) = refused xs ++ refused ys := by
  rw [refused, statements, List.filter_append, List.filter_append]
  rfl

theorem Enters.append (h : Enters xs o o') (h' : Enters ys o' o'') : Enters (xs ++ ys) o o'' where
  session := by rw [h'.session, h.session, accepted_append, ← List.append_assoc]
  errors := by rw [h'.errors, h.errors, refused_append, List.length_append, ← Nat.add_assoc]
  reads := by rw [h'.reads, h.reads, List.length_append, Nat.add_assoc]
  failure := h'.failure.trans h.failure
  crashed := h'.crashed.trans h.crashed

theorem Enters.nil (o : Outcome) : Enters [] o o where
  session := by simp [accepted, statements]
  errors := rfl
  reads := rfl
  failure := rfl
  crashed := rfl

theorem Enters.of_isIdle (h : isIdle (trim line.toList)) (o : Outcome) :
    Enters [line] o o.read where
  session := by simp [accepted, statements, h, Outcome.read]
  errors := by simp [refused, statements, h, Outcome.read]
  reads := rfl
  failure := rfl
  crashed := rfl

theorem eval_trim (files : Files) (s : Session) (text : String) :
    eval files s (String.ofList (trim text.toList)) = eval files s text := by
  rw [eval, String.toList_ofList, trim_trim, eval]

/-- A statement which is not read changes nothing. -/
theorem eval_of_refused (hline : ∀ rest, trim line.toList ≠ ':' :: rest)
    (h : Rule.read? line = none) (files : Files) (s : Session) :
    (eval files s line).1 = s ∧ ∃ e, (eval files s line).2.result = .error e := by
  have htrim : Rule.read? (String.ofList (trim line.toList)) = none := by
    rw [← h]
    exact Rule.read?_congr (by rw [String.toList_ofList, trim_trim])
  obtain ⟨e, he⟩ := Rule.read?_eq_none_iff.1 htrim
  obtain ⟨hadd, hanswer⟩ := eval_of_statement files s hline
  refine ⟨hadd.trans (Session.add_of_error he), e, ?_⟩
  rw [hanswer, Traced.result_bind]
  simp [Session.add, he, Except.bind]

theorem not_isQuit {s : List Char} (h : ∀ rest, s ≠ ':' :: rest) :
    isQuit (String.ofList s) = false := by
  have hne (rest : List Char) : String.ofList s ≠ String.ofList (':' :: rest) := by
    intro heq
    exact h rest (String.ofList_injective heq)
  simp only [isQuit, Bool.or_eq_false_iff, beq_eq_false_iff_ne]
  exact ⟨⟨hne "quit".toList, hne "q".toList⟩, hne "exit".toList⟩

/-- The outcome of a line which is answered, but for what is shown and recorded. -/
theorem enters_answer (hline : ∀ rest, trim line.toList ≠ ':' :: rest)
    (hidle : ¬isIdle (trim line.toList)) (history : List String) (files : Files) (o : Outcome) :
    Enters [line] o (answer files { o.read with history } line) := by
  have hstatements : statements [line] = [line] := by simp [statements, hidle]
  rcases hr : Rule.read? line with - | r
  · obtain ⟨hnext, e, he⟩ := eval_of_refused hline hr files o.session
    constructor
    all_goals
      simp [answer, Outcome.read, Outcome.put, accepted, refused, hstatements, hr, hnext, he]
  · obtain ⟨hnext, hanswer⟩ := @eval_of_read files o.session line r (Rule.read?_eq_some_iff.1 hr)
    constructor
    all_goals
      simp [answer, Outcome.read, Outcome.put, accepted, refused, hstatements, hr, hnext, hanswer]

theorem answer_trim (files : Files) (o : Outcome) (text : String) :
    answer files o (String.ofList (trim text.toList)) = answer files o text := by
  rw [answer, eval_trim, answer]

theorem ne_colon_of_head? (h : (trimStart line.toList).head? ≠ some ':') (rest : List Char) :
    trim line.toList ≠ ':' :: rest := by
  rw [← head?_trim] at h
  intro hline
  rw [hline] at h
  exact h rfl

/-- A line which is no command is passed over, or it is read as a statement. It does not matter how
    much of the blanks at its ends is there. -/
theorem enters_step (htrim : trim text.toList = trim line.toList)
    (h : (trimStart line.toList).head? ≠ some ':') (files : Files) (o : Outcome) :
    ∃ o', step files o (.line text) = (o', true) ∧ Enters [line] o o' := by
  have hline := ne_colon_of_head? h
  by_cases hidle : isIdle (trim line.toList)
  · exact ⟨o.read, by simp [step, htrim, hidle], .of_isIdle hidle o⟩
  · refine ⟨_, ?_, enters_answer hline hidle (o.history ++ [text]) files o⟩
    simp [step, htrim, hidle, not_isQuit hline, answer_trim, Outcome.read]

/-! ## A whole run -/

/-- The readings of a run may be the lines with more or fewer blanks at their ends. Behind them, one
    more reading finds the end of the input. -/
theorem enters_loop {texts : List String}
    (htrim : List.Forall₂ (fun text line => trim text.toList = trim line.toList) texts lines)
    (h : ∀ line ∈ lines, (trimStart line.toList).head? ≠ some ':') (files : Files) (o : Outcome) :
    ∃ o', loop files o (texts.map .line) = o'.read ∧ Enters lines o o' := by
  induction htrim generalizing o with
  | nil => exact ⟨o, rfl, .nil o⟩
  | cons hhead _ ih =>
    rw [List.forall_mem_cons] at h
    obtain ⟨o', hstep, ho'⟩ := enters_step hhead h.1 files o
    obtain ⟨o'', hloop, ho''⟩ := ih h.2 o'
    refine ⟨o'', ?_, ho'.append ho''⟩
    rw [List.map_cons, loop, hstep]
    exact hloop

/-- A run has come to the end of its input, and it has entered the rules of the lines. -/
structure HasEntered (session : Session) (lines : List String) (o : Outcome) : Prop where
  session : o.session = { session with rules := session.rules ++ accepted lines }
  errors : o.errors = (refused lines).length
  reads : o.reads = lines.length + 1
  failure : o.failure = none
  crashed : o.crashed = false

theorem hasEntered_run {texts : List String}
    (htrim : List.Forall₂ (fun text line => trim text.toList = trim line.toList) texts lines)
    (h : ∀ line ∈ lines, (trimStart line.toList).head? ≠ some ':') (files : Files) (style : Style)
    (session : Session) : HasEntered session lines (run files style session (texts.map .line)) := by
  obtain ⟨o, hloop, ho⟩ := enters_loop htrim h files (begin style session)
  rw [run, hloop]
  have hread : HasEntered session lines o.read :=
    { session := ho.session
      errors := ho.errors.trans (Nat.zero_add _)
      reads := congrArg (· + 1) (ho.reads.trans (Nat.zero_add _))
      failure := ho.failure
      crashed := ho.crashed }
  rw [finish]
  split
  · exact { hread with }
  · exact hread

end Shell

end Interlock
