import Interlock.Proofs.CommandLine.Start
import Interlock.Proofs.Shell.Run
import Interlock.Proofs.Text.Encoding

/-!
# Batch scripts

A batch script in which no line is a command is read just like a rule file: the same lines are
statements, and they are read as the same rules. The script takes from a line all line feeds and
carriage returns at its end, and the rule file only one of each, but what is left of them is blank.
The rule file is given up at the first statement which is not read, and the script goes on.

* `Script.trim_chomp`: the two ways to end a line leave the same text.
* `RuleFile.statements_eq`: the two ways to tell statements agree.
* `RuleFile.read_eq_ok_iff_refused`: a rule file can be read if no statement is refused.
-/

namespace Interlock

open Text

/-! ## Rule files -/

namespace RuleFile

/-- Both readers judge a line by its first character which is not blank. -/
theorem takes_eq (line : String) :
    ({} : Options).takes line = !Shell.isIdle (trim line.toList) := by
  have hhead := head?_trim line.toList
  rcases hstart : trimStart line.toList with - | ⟨c, r⟩
  · have hblank : isBlankText line := isBlankText_iff.2 hstart
    obtain h : trim line.toList = [] := by simpa [hstart] using hhead
    simp [Options.takes, hblank, h, Shell.isIdle]
  · have hblank : isBlankText line = false := by
      rw [← Bool.not_eq_true, isBlankText_iff, hstart]
      exact List.cons_ne_nil c r
    obtain ⟨r', h⟩ : ∃ r', trim line.toList = c :: r' := by
      rcases h : trim line.toList with - | ⟨c', r'⟩
      · simp [hstart, h] at hhead
      · obtain rfl : c' = c := by simpa [hstart, h] using hhead
        exact ⟨r', rfl⟩
    have hmark : ({} : Options).isComment line = ('#' == c) := by
      simp only [Options.isComment, hstart]
      exact Bool.and_true ('#' == c)
    simp [Options.takes, hblank, hmark, h, Shell.isIdle, BEq.comm]

theorem statements_eq (text : String) :
    statements {} text = Shell.statements (lines text) :=
  List.filter_congr fun line _ => takes_eq line

theorem read_eq_ok_iff_refused {text : String} {rules : List Rule} :
    (read {} text).result = .ok rules ↔
      Shell.refused (lines text) = [] ∧ rules = Shell.accepted (lines text) := by
  rw [read_eq_ok_iff, statements_eq, Shell.refused, Shell.accepted, ← forall₂_eq_some_iff]
  simp only [Rule.read?_eq_some_iff]

end RuleFile

/-! ## Scripts -/

namespace Script

theorem trim_chomp (line : String) : trim (chomp line).toList = trim line.toList := by
  -- What is taken away stands at the start of the reversed line.
  have hline := List.takeWhile_append_dropWhile (p := fun c => c == '\n' || c == '\r')
    (l := line.toList.reverse)
  have hblank : ∀ c ∈ (line.toList.reverse.takeWhile fun c => c == '\n' || c == '\r').reverse,
      isBlank c := by
    intro c hc
    have hend := List.mem_takeWhile_imp (List.mem_reverse.1 hc)
    rcases (by simpa using hend : c = '\n' ∨ c = '\r') with rfl | rfl
    · decide
    · decide
  rw [← List.reverse_eq_iff, List.reverse_append] at hline
  rw [chomp, String.toList_ofList, ← trim_append_of_blank hblank, hline]

/-- The readings of a script are the lines of its text, but for blanks at their ends. -/
theorem exists_readings_eq (text : String) : ∃ texts, readings (encode text) = texts.map .line ∧
    List.Forall₂ (fun t line => trim t.toList = trim line.toList) texts (lines text) := by
  refine ⟨(chunks (· == '\n') text.toList).map fun l => chomp (String.ofList l), ?_, ?_⟩
  · simp [readings, rawLines_encode, Function.comp_def]
  · rw [lines, List.forall₂_map_left_iff, List.forall₂_map_right_iff, List.forall₂_same]
    intro l _
    rw [trim_chomp, String.toList_ofList, String.toList_ofList, trim_dropLineEnd]

theorem hasEntered_readings {text : String}
    (h : ∀ line ∈ lines text, (trimStart line.toList).head? ≠ some ':') (files : Files)
    (style : Shell.Style) (session : Session) :
    Shell.HasEntered session (lines text)
      (Shell.run files style session (readings (encode text))) := by
  obtain ⟨texts, htexts, htrim⟩ := exists_readings_eq text
  rw [htexts]
  exact Shell.hasEntered_run htrim h files style session

/-- A script and a rule file with the same text say the same, if no line is a command. A run over
    the script goes to its end, adds the rules of those statements which can be read, in their
    order, and counts the others. The rule file can be read if there is nothing to count, and gives
    the same rules. So the program with a batch script, whose rule files can all be loaded, ends
    well just if the rule file can be read. -/
theorem run_iff_read {text : String}
    (h : ∀ line ∈ lines text, (trimStart line.toList).head? ≠ some ':') :
    (∀ files style session, ∃ o, Shell.run files style session (readings (encode text)) = o ∧
      Shell.HasEntered session (lines text) o ∧
      ∀ rules, (RuleFile.read {} text).result = .ok rules ↔
        o.errors = 0 ∧ rules = Shell.accepted (lines text)) ∧
    ∀ files directory args o, CommandLine.IsBatch files directory args o →
      ((CommandLine.run files directory args fun batch => ofInput batch (encode text)).status = 0 ↔
        ∃ rules, (RuleFile.read {} text).result = .ok rules) := by
  refine ⟨fun files style session => ?_, fun files directory args o hbatch => ?_⟩
  · have hentered := hasEntered_readings h files style session
    refine ⟨_, rfl, hentered, fun rules => ?_⟩
    rw [hentered.errors, List.length_eq_zero_iff, RuleFile.read_eq_ok_iff_refused]
  · obtain ⟨session, hsession⟩ := hbatch.exists_run_eq
    have hentered := hasEntered_readings h files (CommandLine.style true) session
    rw [hsession]
    refine (CommandLine.status_finish_eq_zero_iff hentered.failure hentered.crashed).trans ?_
    rw [hentered.errors, List.length_eq_zero_iff]
    simp only [RuleFile.read_eq_ok_iff_refused, exists_and_left, exists_eq, and_true]

/-- A comment, a blank line, a statement and a line which is none. -/
def mixedText : String :=
  "# cells \u2192\r\n\n  ACTION a IS BLOCKED BY ACTION b IF a.dest IS b.dest\r\nnonsense"

/-- The script adds the rule and has one error, so that neither the program ends well, which loads
    an empty file before, nor can the rule file be read. -/
theorem run_iff_read_mixedText :
    (Shell.run (fun _ => .ok "") {} {} (readings (encode mixedText))).session.rules = [.sameCell] ∧
      (Shell.run (fun _ => .ok "") {} {} (readings (encode mixedText))).errors = 1 ∧
      (CommandLine.run (fun _ => .ok "") "" ["-b", "more"]
        fun batch => ofInput batch (encode mixedText)).status ≠ 0 ∧
      ¬∃ rules, (RuleFile.read {} mixedText).result = .ok rules := by
  have hlines : ∀ line ∈ lines mixedText, (trimStart line.toList).head? ≠ some ':' := by
    decide +kernel
  have haccepted : Shell.accepted (lines mixedText) = [.sameCell] := by decide +kernel
  have hrefused : (Shell.refused (lines mixedText)).length = 1 := by decide +kernel
  obtain ⟨hrun, hprogram⟩ := run_iff_read hlines
  obtain ⟨_, rfl, hentered, hread⟩ := hrun (fun _ => .ok "") {} {}
  have hbatch : CommandLine.IsBatch (fun _ => .ok "") "" ["-b", "more"]
      { files := ["more"], batch := true } :=
    { parsed := rfl
      batch := rfl
      help := Bool.false_ne_true
      version := Bool.false_ne_true
      loads := by simpa using ⟨[], rfl⟩ }
  have hfails : ¬∃ rules, (RuleFile.read {} mixedText).result = .ok rules := by
    rintro ⟨rules, hrules⟩
    have hnone := ((hread rules).1 hrules).1
    rw [hentered.errors, hrefused] at hnone
    cases hnone
  refine ⟨?_, hentered.errors.trans hrefused, ?_, hfails⟩
  · rw [hentered.session, haccepted]
    rfl
  · rwa [Ne, hprogram _ _ _ _ hbatch]

end Script

end Interlock
