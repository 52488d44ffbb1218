import Interlock.CommandLine
import Mathlib.Data.List.Basic
import Mathlib.Data.List.Induction

/-!
# The arguments of the program

From the left to the right, the arguments fall into pieces: a flag, an option with the file behind
it, or a path which stands for itself. What stands behind such an option is a file, whatever it
looks like. The files are kept in their order, and a flag is set if it is one of the pieces, however
often and wherever.

* `CommandLine.Piece`: what some arguments say. `CommandLine.IsReadAs`: arguments as pieces.
* `CommandLine.Offends`: some arguments begin with one which is no piece.
* `CommandLine.isReadAs_or_offends`: a list of arguments falls into pieces, up to its end or up to
  an argument which is none.
* `CommandLine.parse_eq_ok_iff`, `CommandLine.parse_eq_error_iff`: which options are had, and how
  arguments are refused. `CommandLine.AsksForPieces`: the two, and what does not matter.
-/

namespace Interlock.CommandLine

/-! ## Pieces -/

/-- What an argument by itself can set. -/
inductive Flag where
  | help
  | version
  | batch
  | noDefaults
  | lenient
  deriving DecidableEq

/-- The arguments which set a flag. -/
def Flag.spellings : Flag → List String
  | help => ["-h", "--help"]
  | version => ["-V", "--version"]
  | batch => ["-b", "--batch"]
  | noDefaults => ["--no-default"]
  | lenient => ["--lenient"]

/-- The arguments behind which a file is named. -/
def fileOptions : List String := ["-r", "--rules"]

/-- The argument begins with a dash. -/
def IsDashed (arg : String) : Prop := arg.toList.head? = some '-'

instance : DecidablePred IsDashed := fun arg =>
  inferInstanceAs (Decidable (arg.toList.head? = some '-'))

/-- What one or two arguments say. -/
inductive Piece where
  | flag (f : Flag)
  | file (path : String)
  deriving DecidableEq

/-- The file, if the piece names one. -/
def Piece.path? : Piece → Option String
  | flag _ => none
  | file path => some path

/-- The arguments of a piece. -/
inductive Piece.IsWrittenAs : Piece → List String → Prop
  | flag {f : Flag} {arg : String} (h : arg ∈ f.spellings) : IsWrittenAs (.flag f) [arg]
  | option {arg : String} (h : arg ∈ fileOptions) (path : String) :
    IsWrittenAs (.file path) [arg, path]
  | path {path : String} (h : ¬IsDashed path) : IsWrittenAs (.file path) [path]

/-- The arguments of some pieces, one behind the other. -/
inductive IsReadAs : List String → List Piece → Prop
  | nil : IsReadAs [] []
  | cons {p : Piece} {args rest : List String} {ps : List Piece} (hp : p.IsWrittenAs args)
    (hrest : IsReadAs rest ps) : IsReadAs (args ++ rest) (p :: ps)

/-- The first argument is no piece, and neither are the first two. The text is the message for
    it. -/
inductive Offends : List String → String → Prop
  | missing {arg : String} (h : arg ∈ fileOptions) : Offends [arg] "--rules requires a file"
  | unknown {arg : String} (hdashed : IsDashed arg) (hflag : ∀ f : Flag, arg ∉ f.spellings)
    (hoption : arg ∉ fileOptions) (rest : List String) :
    Offends (arg :: rest) ("unknown option: " ++ arg)

/-- The options which some pieces give: the files in their order, and the flags which are among
    them. -/
def Options.ofPieces (ps : List Piece) : Options where
  files := ps.filterMap Piece.path?
  batch := .flag .batch ∈ ps
  noDefaults := .flag .noDefaults ∈ ps
  lenient := .flag .lenient ∈ ps
  showHelp := .flag .help ∈ ps
  showVersion := .flag .version ∈ ps

/-- The options with those of one more piece. -/
def Options.add (o : Options) : Piece → Options
  | .flag .help => { o with showHelp := true }
  | .flag .version => { o with showVersion := true }
  | .flag .batch => { o with batch := true }
  | .flag .noDefaults => { o with noDefaults := true }
  | .flag .lenient => { o with lenient := true }
  | .file path => { o with files := o.files ++ [path] }

theorem Options.foldl_add (ps : List Piece) :
    ps.foldl Options.add {} = Options.ofPieces ps := by
  induction ps using List.reverseRecOn with
  | nil => rfl
  | append_singleton ps p ih =>
    rw [List.foldl_append, ih]
    rcases p with f | path
    · cases f <;> simp [add, ofPieces, Piece.path?]
    · simp [add, ofPieces, Piece.path?]

variable {arg message : String} {args front rest : List String} {o : Options} {p : Piece}
  {ps : List Piece} {f : Flag}

theorem isDashed_of_mem_spellings (h : arg ∈ f.spellings) : IsDashed arg := by
  revert arg
  cases f <;> decide

theorem isDashed_of_mem_fileOptions (h : arg ∈ fileOptions) : IsDashed arg := by
  revert arg
  decide

/-! ## One piece -/

theorem parseFrom_flag (h : arg ∈ f.spellings) :
    parseFrom o (arg :: rest) = parseFrom (o.add (.flag f)) rest := by
  cases f <;> simp only [Flag.spellings, List.mem_cons, List.not_mem_nil, or_false] at h <;>
    rcases h with rfl | rfl <;> rfl

theorem parseFrom_option (h : arg ∈ fileOptions) (path : String) :
    parseFrom o (arg :: path :: rest) = parseFrom (o.add (.file path)) rest := by
  simp only [fileOptions, List.mem_cons, List.not_mem_nil, or_false] at h
  rcases h with rfl | rfl <;> rfl

/-- An argument which is neither a flag nor an option is a path, or nothing that is known. -/
theorem parseFrom_other (hflag : ∀ f : Flag, arg ∉ f.spellings) (hoption : arg ∉ fileOptions) :
    parseFrom o (arg :: rest) =
      if IsDashed arg then .error ("unknown option: " ++ arg)
      else parseFrom (o.add (.file arg)) rest := by
  rw [parseFrom]
  · rfl
  all_goals rintro rfl
  · exact hflag .help (by decide)
  · exact hflag .help (by decide)
  · exact hflag .version (by decide)
  · exact hflag .version (by decide)
  · exact hflag .batch (by decide)
  · exact hflag .batch (by decide)
  · exact hflag .noDefaults (by decide)
  · exact hflag .lenient (by decide)
  · exact hoption (by decide)
  · exact hoption (by decide)

theorem parseFrom_piece (h : p.IsWrittenAs args) :
    parseFrom o (args ++ rest) = parseFrom (o.add p) rest := by
  cases h with
  | flag h => exact parseFrom_flag h
  | option h path => exact parseFrom_option h path
  | path h =>
    -- All that is known begins with a dash.
    refine (parseFrom_other (fun f hmem => h ?_) fun hmem => h ?_).trans (if_neg h)
    · exact isDashed_of_mem_spellings hmem
    · exact isDashed_of_mem_fileOptions hmem

theorem parseFrom_offends (h : Offends args message) : parseFrom o args = .error message := by
  cases h with
  | missing h =>
    simp only [fileOptions, List.mem_cons, List.not_mem_nil, or_false] at h
    rcases h with rfl | rfl <;> rfl
  | unknown hdashed hflag hoption rest =>
    rw [parseFrom_other hflag hoption, if_pos hdashed]

/-- Arguments begin with a piece, unless there are none or the first one is none. -/
theorem head_cases (args : List String) :
    args = [] ∨
      (∃ (p : Piece) (front rest : List String), args = front ++ rest ∧ p.IsWrittenAs front) ∨
      ∃ message, Offends args message := by
  rcases args with - | ⟨arg, rest⟩
  · exact .inl rfl
  refine .inr ?_
  by_cases hflag : ∃ f : Flag, arg ∈ f.spellings
  · obtain ⟨f, hf⟩ := hflag
    exact .inl ⟨.flag f, [arg], rest, rfl, .flag hf⟩
  by_cases hoption : arg ∈ fileOptions
  · rcases rest with - | ⟨path, rest⟩
    · exact .inr ⟨_, .missing hoption⟩
    · exact .inl ⟨.file path, [arg, path], rest, rfl, .option hoption path⟩
  by_cases hdashed : IsDashed arg
  · exact .inr ⟨_, .unknown hdashed (not_exists.1 hflag) hoption rest⟩
  · exact .inl ⟨.file arg, [arg], rest, rfl, .path hdashed⟩

/-! ## All arguments -/

theorem parseFrom_append (h : IsReadAs front ps) (o : Options) (rest : List String) :
    parseFrom o (front ++ rest) = parseFrom (ps.foldl Options.add o) rest := by
  induction h generalizing o with
  | nil => rfl
  | cons hp _ ih => rw [List.append_assoc, parseFrom_piece hp, ih, List.foldl_cons]

theorem Piece.IsWrittenAs.ne_nil (h : p.IsWrittenAs args) : args ≠ [] := by
  cases h <;> simp

/-- Arguments fall into pieces, up to their end or up to one which is none. -/
theorem isReadAs_or_offends (args : List String) :
    (∃ ps, IsReadAs args ps) ∨ ∃ front ps rest message,
      args = front ++ rest ∧ IsReadAs front ps ∧ Offends rest message := by
  rcases head_cases args with rfl | ⟨p, front, rest, hargs, hp⟩ | ⟨message, h⟩
  · exact .inl ⟨[], .nil⟩
  · have hlt : rest.length < args.length := by
      have := List.length_pos_iff.2 hp.ne_nil
      rw [hargs, List.length_append]
      omega
    subst hargs
    rcases isReadAs_or_offends rest with ⟨ps, hps⟩ | ⟨front', ps, rest', message, rfl, hps, h⟩
    · exact .inl ⟨p :: ps, .cons hp hps⟩
    · exact .inr ⟨front ++ front', p :: ps, rest', message, by simp, .cons hp hps, h⟩
  · exact .inr ⟨[], [], args, message, rfl, .nil, h⟩
termination_by args.length

theorem parse_of_isReadAs (h : IsReadAs args ps) : parse args = .ok (.ofPieces ps) := by
  have hparse := parseFrom_append h {} []
  rw [List.append_nil, Options.foldl_add] at hparse
  exact hparse

theorem parse_of_offends (h : IsReadAs front ps) (hrest : Offends rest message) :
    parse (front ++ rest) = .error message := by
  rw [parse, parseFrom_append h, parseFrom_offends hrest]

theorem parse_eq_ok_iff : parse args = .ok o ↔ ∃ ps, IsReadAs args ps ∧ o = .ofPieces ps := by
  constructor
  · intro h
    rcases isReadAs_or_offends args with ⟨ps, hps⟩ | ⟨front, ps, rest, message, rfl, hps, hrest⟩
    · exact ⟨ps, hps, Except.ok.inj (h.symm.trans (parse_of_isReadAs hps))⟩
    · cases h.symm.trans (parse_of_offends hps hrest)
  · rintro ⟨ps, hps, rfl⟩
    exact parse_of_isReadAs hps

theorem parse_eq_error_iff : parse args = .error message ↔
    ∃ front ps rest, args = front ++ rest ∧ IsReadAs front ps ∧ Offends rest message := by
  constructor
  · intro h
    rcases isReadAs_or_offends args with ⟨ps, hps⟩ | ⟨front, ps, rest, message', rfl, hps, hrest⟩
    · cases h.symm.trans (parse_of_isReadAs hps)
    · cases h.symm.trans (parse_of_offends hps hrest)
      exact ⟨front, ps, rest, rfl, hps, hrest⟩
  · rintro ⟨front, ps, rest, rfl, hps, hrest⟩
    exact parse_of_offends hps hrest

theorem parse_eq_of_same {args' : List String} {ps' : List Piece} (h : IsReadAs args ps)
    (h' : IsReadAs args' ps') (hfiles : ps'.filterMap Piece.path? = ps.filterMap Piece.path?)
    (hflags : ∀ f, .flag f ∈ ps' ↔ .flag f ∈ ps) : parse args' = parse args := by
  rw [parse_of_isReadAs h, parse_of_isReadAs h']
  simp only [Options.ofPieces, hfiles, hflags]

/-- What the arguments ask for is what their pieces say. -/
structure AsksForPieces (args : List String) : Prop where
  /-- Arguments which do not fall into pieces are refused for the first which is none. -/
  eq_error_iff : ∀ message, parse args = .error message ↔
    ∃ front ps rest, args = front ++ rest ∧ IsReadAs front ps ∧ Offends rest message
  /-- All others give the files in their order, and the flags which are among them. -/
  eq_ok_iff : ∀ o, parse args = .ok o ↔ ∃ ps, IsReadAs args ps ∧ o = .ofPieces ps
  /-- The order and the number of flags do not matter, nor where they stand among the files. -/
  eq_of_same : ∀ ps args' ps', IsReadAs args ps → IsReadAs args' ps' →
    ps'.filterMap Piece.path? = ps.filterMap Piece.path? →
    (∀ f, .flag f ∈ ps' ↔ .flag f ∈ ps) → parse args' = parse args

theorem asksForPieces (args : List String) : AsksForPieces args where
  eq_error_iff _ := parse_eq_error_iff
  eq_ok_iff _ := parse_eq_ok_iff
  eq_of_same _ _ _ := parse_eq_of_same

end Interlock.CommandLine
