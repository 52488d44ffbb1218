import Interlock.Shell.Run

/-!
# The command line

The arguments name rule files and set options. The rules that come with the program are loaded
first, then the files in their order; the shell runs over the input, or over a batch script.

* `CommandLine.parse`: the options of a list of arguments.
* `CommandLine.start`: the session with which the shell starts.
* `CommandLine.run`: the exit status and what is shown.
-/

namespace Interlock

namespace CommandLine

/-- What the arguments ask for. -/
structure Options where
  files : List String := []
  batch : Bool := false
  noDefaults : Bool := false
  lenient : Bool := false
  showHelp : Bool := false
  showVersion : Bool := false
  deriving DecidableEq

/-- The options with those of further arguments, read from the left. -/
def parseFrom (o : Options) : List String → Except String Options
  | [] => .ok o
  | arg :: rest =>
    match arg with
    | "-h" | "--help" => parseFrom { o with showHelp := true } rest
    | "-V" | "--version" => parseFrom { o with showVersion := true } rest
    | "-b" | "--batch" => parseFrom { o with batch := true } rest
    | "--no-default" => parseFrom { o with noDefaults := true } rest
    | "--lenient" => parseFrom { o with lenient := true } rest
    | "-r" | "--rules" =>
      match rest with
      | [] => .error "--rules requires a file"
      | file :: rest => parseFrom { o with files := o.files ++ [file] } rest
    | path =>
      if path.toList.head? = some '-' then .error ("unknown option: " ++ path)
      else parseFrom { o with files := o.files ++ [path] } rest

/-- The options of a list of arguments. -/
def parse (args : List String) : Except String Options := parseFrom {} args

/-- The answer to `--help`. -/
def help : String := "\n".intercalate [
  "\x1b[1mcdl\x1b[0m - Constraint definition language shell",
  "",
  "\x1b[1mUSAGE:\x1b[0m",
  "    cdl [OPTIONS] [FILES...]",
  "",
  "\x1b[1mARGUMENTS:\x1b[0m",
  "    [FILES...]    Rule files to load before starting",
  "",
  "\x1b[1mOPTIONS:\x1b[0m",
  "    -h, --help         Print help information",
  "    -V, --version      Print version information",
  "    -b, --batch        Read statements and commands from stdin (no prompt)",
  "    -r, --rules FILE   Load a rule file (same as a positional FILE)",
  "    --no-default       Start without the bundled conflict rules",
  "    --lenient          Treat rules that fail to bind as not blocking",
  "",
  "\x1b[1mEXAMPLES:\x1b[0m",
  "    cdl                              Start with the default rules",
  "    cdl --no-default level.cdl       Start with only the rules in level.cdl",
  "    echo ':check [orig=0,0 dest=0,1] [orig=0,1 dest=0,0]' | cdl -b",
  "",
  "\x1b[1mREPL COMMANDS:\x1b[0m",
  "    :rules               List loaded rules",
  "    :load FILE           Load a rule file",
  "    :eval N ACTION...    Evaluate rule N against one or two actions",
  "    :check ACTION...     Validate a joint action",
  "    :help                Show statement and command syntax",
  "    Ctrl+D               Exit REPL",
  "",
  "Set RUST_LOG=cdl=debug to see parsing and validation traces.",
  ""]

/-- The session with the rules of some files, in order, behind its own. -/
def loadAll (files : Files) (s : Session) : List String → Traced Session
  | [] => return s
  | path :: paths => do
    let (next, count) := s.load files path
    let _ ← count
    loadAll files next paths

/-- The session with which the shell starts, in a directory. -/
def start (files : Files) (directory : String) (o : Options) : Traced Session := do
  let session : Session := { directory }
  let session ← if o.noDefaults then pure session else session.withDefaults
  let session := if o.lenient then { session with policy := Policy.lenient } else session
  loadAll files session o.files

/-- How a program ends: its exit status, and what it has shown. -/
structure Exit where
  status : Nat
  shown : List Output := []
  deriving DecidableEq

/-- The program ends with an error. -/
def Exit.failed (message : String) : Exit := ⟨1, [.ofMessage message]⟩

/-- How the shell of a program ends. A batch script fails if one of its lines does. If the program
    breaks down, it has shown what it had; what the system reports of that is left out. -/
def finish (batch : Bool) (o : Shell.Outcome) : Exit :=
  if o.crashed then ⟨101, o.shown⟩
  else match o.failure with
    | some e => ⟨1, o.shown ++ [.ofMessage e.message]⟩
    | none => ⟨if batch && o.errors ≠ 0 then 1 else 0, o.shown⟩

/-- How the shell presents itself: over a batch script it has neither banner nor prompt. -/
def style (batch : Bool) : Shell.Style := if batch then { banner := false, prompt := "" } else {}

/-- Whether the input is a batch script, and the session with which the shell starts; or how the
    program ends without a shell. -/
def prepare (files : Files) (directory : String) (args : List String) :
    Except Exit (Bool × Session) :=
  match parse args with
  | .error message => .error (.failed message)
  | .ok o =>
    if o.showHelp then .error ⟨0, [.out help]⟩
    else if o.showVersion then .error ⟨0, [.out ("cdl " ++ Shell.version ++ "\n")]⟩
    else match (start files directory o).result with
      | .error e => .error (.failed e.message)
      | .ok session => .ok (o.batch, session)

/-- The program with some arguments, in a directory. The input depends on whether it is read as a
    batch script. -/
def run (files : Files) (directory : String) (args : List String)
    (input : Bool → List Reading) : Exit :=
  match prepare files directory args with
  | .error e => e
  | .ok (batch, session) => finish batch (Shell.run files (style batch) session (input batch))

end CommandLine

end Interlock
