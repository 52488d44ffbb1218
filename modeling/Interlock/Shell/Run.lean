import Interlock.Shell

/-!
# Running the shell

The shell reads lines and answers them until the input ends, reading fails, or it is told to quit.
Blank lines and comments are passed over; an error is shown and counted, and the shell goes on.

* `Reading`: what one attempt to read a line brings.
* `Shell.run`: the outcome of a run over the readings of a whole input.
-/

namespace Interlock

/-- What one attempt to read a line brings. -/
inductive Reading where
  | line (text : String)
  /-- The line which was begun is dropped. -/
  | interrupted
  | failed (error : Error)
  /-- The input has ended. -/
  | ended
  /-- The editor of the line broke down, and the program with it. -/
  | crashed
  deriving DecidableEq

/-- Text for one of the two channels of a program. -/
inductive Output where
  | out (text : String)
  | err (text : String)
  deriving DecidableEq

namespace Output

/-- The text, if it is for the channel of answers. -/
def out? : Output → Option String
  | out s => some s
  | err _ => none

/-- The text, if it is for the channel of errors. -/
def err? : Output → Option String
  | out _ => none
  | err s => some s

/-- What a channel of errors shows for an error. -/
def ofMessage (message : String) : Output := err ("\x1b[31mError: " ++ message ++ "\x1b[0m\n")

end Output

namespace Shell

/-- The version of the shell. -/
def version : String := "0.1.0"

/-- How the shell presents itself. -/
structure Style where
  /-- The shell greets and takes its leave. -/
  banner : Bool := true
  prompt : String := "cdl> "
  deriving DecidableEq

/-- What a run has come to. -/
structure Outcome where
  session : Session
  /-- The number of lines which ended in an error. -/
  errors : Nat := 0
  shown : List Output := []
  /-- The lines which can be recalled. -/
  history : List String := []
  /-- The number of attempts to read a line. -/
  reads : Nat := 0
  events : List Event := []
  /-- Why reading failed, if it did. -/
  failure : Option Error := none
  /-- The program broke down. -/
  crashed : Bool := false
  deriving DecidableEq

namespace Outcome

/-- The outcome with more text shown. -/
def put (o : Outcome) (x : Output) : Outcome := { o with shown := o.shown ++ [x] }

/-- The outcome with one more attempt to read a line. -/
def read (o : Outcome) : Outcome := { o with reads := o.reads + 1 }

/-- What was shown on the channel of answers. -/
def stdout (o : Outcome) : String := String.join (o.shown.filterMap Output.out?)

/-- What was shown on the channel of errors. -/
def stderr (o : Outcome) : String := String.join (o.shown.filterMap Output.err?)

end Outcome

/-- The line is blank or a comment, without the blanks at its ends. -/
def isIdle : List Char → Bool
  | [] => true
  | c :: _ => c == '#'

/-- The line tells the shell to quit. -/
def isQuit (line : String) : Bool := line == ":quit" || line == ":q" || line == ":exit"

/-- The outcome after a line which the shell answers. -/
def answer (files : Files) (o : Outcome) (line : String) : Outcome :=
  let (session, answer) := eval files o.session line
  let o := { o with session, events := o.events ++ answer.events }
  match answer.result with
  | .ok text => o.put (.out (text ++ "\n"))
  | .error e => { o.put (.ofMessage e.message) with errors := o.errors + 1 }

/-- The outcome after one reading, and whether the shell reads on. -/
def step (files : Files) (o : Outcome) (r : Reading) : Outcome × Bool :=
  let o := o.read
  match r with
  | .ended => (o, false)
  | .failed e => ({ o with failure := some e }, false)
  | .crashed => ({ o with crashed := true }, false)
  | .interrupted => (o.put (.out "\n"), true)
  | .line text =>
    let trimmed := Text.trim text.toList
    if isIdle trimmed then (o, true)
    else
      let o := { o with history := o.history ++ [text] }
      let line := String.ofList trimmed
      if isQuit line then (o, false) else (answer files o line, true)

/-- The outcome after some readings, behind which the input ends. -/
def loop (files : Files) (o : Outcome) : List Reading → Outcome
  | [] => (step files o .ended).1
  | r :: rest =>
    match step files o r with
    | (o, true) => loop files o rest
    | (o, false) => o

/-- What the shell shows before the first line. -/
def greeting (s : Session) : List Output :=
  [.out ("\x1b[1;36mCDL\x1b[0m rule shell v" ++ version ++ "\n"),
    .out (s.rules.length.repr ++
      " rules loaded. Type :help for commands, Ctrl+D to exit.\n\n")]

/-- The outcome before the first reading. -/
def begin (style : Style) (session : Session) : Outcome :=
  { session, shown := if style.banner then greeting session else [] }

/-- The outcome with the leave that the shell takes, if it came to its end. -/
def finish (style : Style) (o : Outcome) : Outcome :=
  if style.banner && o.failure.isNone && !o.crashed then o.put (.out "\nGoodbye!\n") else o

/-- The outcome of a run over the readings of an input, which ends behind them. -/
def run (files : Files) (style : Style) (session : Session) (input : List Reading) : Outcome :=
  finish style (loop files (begin style session) input)

end Shell

end Interlock
