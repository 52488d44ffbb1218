import Interlock.CommandLine
import Interlock.Proofs.CommandLine.Arguments
import Interlock.Proofs.RuleFile.Defaults
import Interlock.Proofs.Shell.Line

/-!
# How the shell is started

The bundled rules can always be loaded, and then the files are loaded one after the other, so that
the shell starts if each of them can be loaded.

* `CommandLine.rulesOf`: the rules of a file. `CommandLine.result_loadAll`: loading some files adds
  their rules, and changes nothing else.
* `CommandLine.initial`: the settings with which the shell starts. `CommandLine.result_start`,
  `CommandLine.result_start_eq_map`: the start from these.
* `CommandLine.exists_start_eq`, `CommandLine.exists_start_eq_error`: the session with which it
  starts, or the file for which it does not.
* `CommandLine.prepare_eq`: how the arguments lead there.
* `CommandLine.IsBatch`: the arguments ask for a batch run, and all files can be loaded.
  `CommandLine.IsBatch.exists_run_eq`: then the shell starts.
* `CommandLine.status_finish_eq_zero_iff`: when a batch script is successful.
* `CommandLine.StartsWith`: the start from the arguments on, with files which can be loaded and with
  others.
-/

namespace Interlock

namespace CommandLine

variable {files : Files} {directory : String} {args : List String} {o : Options}

/-- The file can be loaded into a session with these settings. -/
def Loads (files : Files) (s : Session) (path : String) : Prop :=
  ∃ rules, (RuleFile.load files s.reading (s.resolve path)).result = .ok rules

/-- The rules of a file, as a session with these settings loads them. -/
def rulesOf (files : Files) (s : Session) (path : String) : Except Error (List Rule) :=
  (RuleFile.load files s.reading (s.resolve path)).result

/-- One file after the other is loaded, up to the first which cannot be. The rules of a file come
    behind those of the files before it. -/
theorem result_loadAll (files : Files) (s : Session) (paths : List String) :
    (loadAll files s paths).result = (paths.mapM (rulesOf files s)).map fun parts =>
      { s with rules := s.rules ++ parts.flatten } := by
  induction paths generalizing s with
  | nil => simp [loadAll, Except.map, pure, Except.pure]
  | cons path paths ih =>
    rw [loadAll, List.mapM_cons]
    simp only [Traced.result_bind]
    rcases hrules : rulesOf files s path with e | rules
    · rw [(Session.load_of_error hrules).2]
      rfl
    · obtain ⟨hnext, hcount⟩ := Session.load_of_read hrules
      -- More rules change nothing in the way in which files are loaded.
      have hsame : rulesOf files { s with rules := s.rules ++ rules } = rulesOf files s := rfl
      rw [hcount, hnext]
      simp only [Except.bind, ih, hsame]
      rcases paths.mapM (rulesOf files s) with e | parts
      · rfl
      · simp [Except.map, bind, Except.bind, pure, Except.pure]

/-- The session with the settings which the options ask for, before any file is loaded. -/
def initial (directory : String) (o : Options) : Session where
  rules := if o.noDefaults then [] else [.sameCell, .following, .touching]
  policy := if o.lenient then Policy.lenient else {}
  directory := directory

theorem result_withDefaults (s : Session) :
    s.withDefaults.result = .ok { s with rules := [.sameCell, .following, .touching] } := by
  -- The definition is opened as a function: applied to a session, it would be compared with its
  -- unfolding by reading the bundled text.
  have hopen : Session.withDefaults =
      fun s => do return { s with rules := ← RuleFile.defaults } := by
    delta Session.withDefaults
    rfl
  rw [congrFun hopen s, Traced.result_bind, RuleFile.defaults_eq]
  rfl

/-- The bundled rules never stand in the way. -/
theorem result_start (files : Files) (directory : String) (o : Options) :
    (start files directory o).result = (loadAll files (initial directory o) o.files).result := by
  -- All that matters of the bundled rules is to which session they lead, so that the rest need not
  -- look at them.
  obtain ⟨withDefaults, hopen, hdefaults⟩ : ∃ f, Session.withDefaults = f ∧
      ∀ s, (f s).result = .ok { s with rules := [.sameCell, .following, .touching] } :=
    ⟨_, rfl, result_withDefaults⟩
  rw [start, hopen]
  simp only [initial]
  split
  · rw [Traced.result_bind]
    split
    · rfl
    · rfl
  · rw [Traced.result_bind, hdefaults]
    split
    · rfl
    · rfl

/-- What a file holds depends on the directory alone, and not on what the options set. -/
theorem result_start_eq_map (files : Files) (directory : String) (o : Options) :
    (start files directory o).result =
      (o.files.mapM (rulesOf files { directory })).map fun parts =>
        { initial directory o with rules := (initial directory o).rules ++ parts.flatten } := by
  have hsame : rulesOf files (initial directory o) = rulesOf files { directory } := rfl
  rw [result_start, result_loadAll, hsame]

/-- The shell starts if all files can be loaded, with their rules behind the bundled ones. -/
theorem exists_start_eq (h : ∀ path ∈ o.files, Loads files { directory } path) :
    ∃ parts, List.Forall₂ (fun path rules => rulesOf files { directory } path = .ok rules)
        o.files parts ∧
      (start files directory o).result =
        .ok { initial directory o with rules := (initial directory o).rules ++ parts.flatten } := by
  obtain ⟨parts, hparts⟩ := exists_mapM_eq (f := rulesOf files { directory }) h
  refine ⟨parts, mapM_eq_ok_iff.1 hparts, ?_⟩
  rw [result_start_eq_map, hparts]
  rfl

/-- If some file cannot be loaded, then the first such file tells why the shell does not start. -/
theorem exists_start_eq_error (h : ∃ path ∈ o.files, ¬Loads files { directory } path) :
    ∃ before path behind e, o.files = before ++ path :: behind ∧
      (∀ q ∈ before, Loads files { directory } q) ∧ rulesOf files { directory } path = .error e ∧
      (start files directory o).result = .error e := by
  rcases hparts : o.files.mapM (rulesOf files { directory }) with e | parts
  · obtain ⟨before, path, behind, hfiles, hbefore, he⟩ := mapM_eq_error_iff.1 hparts
    refine ⟨before, path, behind, e, hfiles, hbefore, he, ?_⟩
    rw [result_start_eq_map, hparts]
    rfl
  · obtain ⟨path, hpath, hfails⟩ := h
    obtain ⟨rules, -, hrules⟩ := exists_of_mem_left (mapM_eq_ok_iff.1 hparts) hpath
    exact absurd ⟨rules, hrules⟩ hfails

/-- Arguments which do not ask for a text start the shell, if a session can be made for it. -/
theorem prepare_eq (hparse : parse args = .ok o) (hhelp : ¬o.showHelp) (hversion : ¬o.showVersion) :
    prepare files directory args = match (start files directory o).result with
      | .error e => .error (.failed e.message)
      | .ok session => .ok (o.batch, session) := by
  rw [prepare, hparse]
  rcases hstart : (start files directory o).result with e | session <;>
    simp [hhelp, hversion, hstart]

/-- The arguments ask for a batch run, and all files which they name can be loaded. -/
structure IsBatch (files : Files) (directory : String) (args : List String) (o : Options) :
    Prop where
  parsed : parse args = .ok o
  batch : o.batch
  help : ¬o.showHelp
  version : ¬o.showVersion
  loads : ∀ path ∈ o.files, Loads files { directory } path

theorem IsBatch.exists_prepare_eq (h : IsBatch files directory args o) :
    ∃ session, prepare files directory args = .ok (true, session) := by
  obtain ⟨parts, -, hstart⟩ := exists_start_eq h.loads
  refine ⟨{ initial directory o with rules := (initial directory o).rules ++ parts.flatten }, ?_⟩
  rw [prepare_eq h.parsed h.help h.version, hstart, h.batch]

theorem IsBatch.exists_run_eq (h : IsBatch files directory args o) :
    ∃ session, ∀ input, run files directory args input =
      finish true (Shell.run files (style true) session (input true)) := by
  obtain ⟨session, hsession⟩ := h.exists_prepare_eq
  exact ⟨session, fun input => by rw [run, hsession]⟩

/-- A batch script in which every line could be had is successful if no line failed. -/
theorem status_finish_eq_zero_iff {o : Shell.Outcome} (hfailure : o.failure = none)
    (hcrashed : o.crashed = false) : (finish true o).status = 0 ↔ o.errors = 0 := by
  simp [finish, hfailure, hcrashed]

/-- How the program starts with some options, which arguments ask for, and with the rules that come
    with it. -/
structure StartsWith (files : Files) (directory : String) (args : List String) (o : Options)
    (defaults : List Rule) : Prop where
  /-- If all files can be loaded, then the shell starts with the settings which are asked for and
      with the bundled rules, unless these are declined, and the rules of the files behind them. -/
  of_loads : (∀ path ∈ o.files, Loads files { directory } path) → ∃ parts session,
    List.Forall₂ (fun path rules => rulesOf files { directory } path = .ok rules) o.files parts ∧
    session = { initial directory o with
      rules := (if o.noDefaults then [] else defaults) ++ parts.flatten } ∧
    prepare files directory args = .ok (o.batch, session) ∧
    ∀ input, run files directory args input =
      finish o.batch (Shell.run files (style o.batch) session (input o.batch))
  /-- If some file cannot be loaded, then the program ends with the error of the first such file,
      whatever the input is. -/
  of_not_loads : (∃ path ∈ o.files, ¬Loads files { directory } path) → ∃ before path behind e,
    o.files = before ++ path :: behind ∧ (∀ q ∈ before, Loads files { directory } q) ∧
    rulesOf files { directory } path = .error e ∧ (start files directory o).result = .error e ∧
    prepare files directory args = .error (.failed e.message) ∧
    ∀ input, run files directory args input = .failed e.message

theorem startsWith (files : Files) (directory : String) (hparse : parse args = .ok o)
    (hhelp : ¬o.showHelp) (hversion : ¬o.showVersion) :
    StartsWith files directory args o [.sameCell, .following, .touching] := by
  have hprepare : prepare files directory args = _ := prepare_eq hparse hhelp hversion
  constructor
  · intro h
    obtain ⟨parts, hparts, hstart⟩ := exists_start_eq h
    rw [hstart] at hprepare
    refine ⟨parts, _, hparts, rfl, hprepare, fun input => ?_⟩
    rw [run, hprepare]
    rfl
  · intro h
    obtain ⟨before, path, behind, e, hfiles, hbefore, he, hstart⟩ := exists_start_eq_error h
    rw [hstart] at hprepare
    exact ⟨before, path, behind, e, hfiles, hbefore, he, hstart, hprepare,
      fun input => by rw [run, hprepare]⟩

/-- What the arguments ask for is what their pieces say. If no text is asked for, then the program
    starts with what they ask for, and with the bundled rules, which can be loaded. -/
theorem parse_and_start (args : List String) : AsksForPieces args ∧
    ∀ o, parse args = .ok o → ¬o.showHelp → ¬o.showVersion →
      ∃ defaults, RuleFile.defaults.result = .ok defaults ∧
        ∀ files directory, StartsWith files directory args o defaults :=
  ⟨asksForPieces args, fun _ hparse hhelp hversion => ⟨_, RuleFile.defaults_eq,
    fun files directory => startsWith files directory hparse hhelp hversion⟩⟩

/-- A flag which is given twice, a file which looks like a flag, and another file. -/
def flagLikeFile : List String := ["--lenient", "-r", "--batch", "more", "--lenient"]

/-- All files are empty, but for one which holds the first of the bundled rules. -/
def oneRuleFile : Files := fun path => if path = "/x/more" then .ok Rule.sameCell.render else .ok ""

/-- The shell starts with the bundled rules and the one of the second file, and without any files it
    does not start. -/
theorem parse_and_start_flagLikeFile :
    parse flagLikeFile = .ok { files := ["--batch", "more"], lenient := true } ∧
      parse ["-b", "-r"] = .error "--rules requires a file" ∧
      parse ["more", "--lenient", "--lenient", "-r", "b"] = parse ["--lenient", "more", "b"] ∧
      (∃ session, prepare oneRuleFile "/x" flagLikeFile = .ok (false, session) ∧
        session.rules = [.sameCell, .following, .touching, .sameCell]) ∧
      ∀ input, (run (fun _ => .error "gone") "/x" flagLikeFile input).status = 1 := by
  obtain ⟨hpiecewise, hstart⟩ := parse_and_start flagLikeFile
  have hpieces : IsReadAs flagLikeFile
      [.flag .lenient, .file "--batch", .file "more", .flag .lenient] :=
    .cons (.flag (by decide)) (.cons (.option (by decide) _) (.cons (.path (by decide))
      (.cons (.flag (by decide)) .nil)))
  have hparse : parse flagLikeFile = .ok { files := ["--batch", "more"], lenient := true } :=
    (hpiecewise.eq_ok_iff _).2 ⟨_, hpieces, rfl⟩
  obtain ⟨defaults, hdefaults, hfiles⟩ := hstart _ hparse nofun nofun
  refine ⟨hparse, ?_, ?_, ?_, fun input => ?_⟩
  · exact ((parse_and_start _).1.eq_error_iff _).2
      ⟨["-b"], [.flag .batch], ["-r"], rfl, .cons (.flag (by decide)) .nil, .missing (by decide)⟩
  · refine (parse_and_start ["--lenient", "more", "b"]).1.eq_of_same
      [.flag .lenient, .file "more", .file "b"] _
      [.file "more", .flag .lenient, .flag .lenient, .file "b"] ?_ ?_ rfl (by simp)
    · exact .cons (.flag (by decide)) (.cons (.path (by decide)) (.cons (.path (by decide)) .nil))
    · exact .cons (.path (by decide)) (.cons (.flag (by decide)) (.cons (.flag (by decide))
        (.cons (.option (by decide) _) .nil)))
  · have hempty : rulesOf oneRuleFile { directory := "/x" } "--batch" = .ok [] := by rfl
    have hone : rulesOf oneRuleFile { directory := "/x" } "more" = .ok [.sameCell] := by
      decide +kernel
    obtain ⟨parts, session, hparts, hsession, hprepare, -⟩ := (hfiles oneRuleFile "/x").of_loads <|
      List.forall_mem_cons.2 ⟨⟨_, hempty⟩, List.forall_mem_singleton.2 ⟨_, hone⟩⟩
    obtain rfl : parts = [[], [.sameCell]] := by
      obtain ⟨p, _, hp, hrest, rfl⟩ := List.forall₂_cons_left_iff.1 hparts
      obtain ⟨q, _, hq, hnil, rfl⟩ := List.forall₂_cons_left_iff.1 hrest
      cases List.forall₂_nil_left_iff.1 hnil
      cases hp.symm.trans hempty
      cases hq.symm.trans hone
      rfl
    obtain rfl := Except.ok.inj (hdefaults.symm.trans RuleFile.defaults_eq)
    exact ⟨session, hprepare, by rw [hsession]; rfl⟩
  · have hgone : ¬Loads (fun _ => .error "gone") { directory := "/x" } "more" := by
      rintro ⟨rules, ⟨⟩⟩
    obtain ⟨before, path, behind, e, -, -, -, -, -, hrun⟩ :=
      (hfiles (fun _ => .error "gone") "/x").of_not_loads ⟨"more", by simp, hgone⟩
    rw [hrun]
    rfl

end CommandLine

end Interlock
