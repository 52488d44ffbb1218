import Interlock.CommandLine
import Interlock.FileTree
import Interlock.Shell.Script

/-!
# The program

The shell over the standard input. Each line is answered before the next one is read; the files for
a line are read when the line asks for them (see `Shell.eval_congr`).
-/

namespace Interlock.Program

/-- Why a file cannot be read, as the system says it. -/
def reason : IO.Error → String
  | .noFileOrDirectory .. => FileTree.notFound
  | .inappropriateType _ code _ =>
    if code = 21 ∨ code = -21 then FileTree.isADirectory else FileTree.notDirectory
  | .permissionDenied .. => "Permission denied (os error 13)"
  | .invalidArgument _ code details =>
    if code = 36 ∨ code = -36 then FileTree.nameTooLong else details
  | e => e.toString

/-- The text of a file, or why it cannot be read. -/
def readText (path : String) : IO (Except String String) := do
  if path.toList.contains '\x00' then return .error FileTree.nulInPath
  match ← (IO.FS.readBinFile path).toBaseIO with
  | .error e => return .error (reason e)
  | .ok bytes =>
    match String.fromUTF8? bytes with
    | some text => return .ok text
    | none => return .error FileTree.notText

/-- The texts of some paths, as they are now. -/
def readTexts (paths : List String) : IO Files := do
  let texts ← paths.mapM fun path => return (path, ← readText path)
  return fun path => (texts.lookup path).getD (.error FileTree.notFound)

/-- Shows a text on its channel. -/
def put : Output → IO Unit
  | .out text => do
    let out ← IO.getStdout
    out.putStr text
    out.flush
  | .err text => do (← IO.getStderr).putStr text

/-- The rest of a line of which the given bytes were read; the input may end before the line. -/
partial def readLine (input : IO.FS.Stream) (line : List UInt8) : IO (List UInt8) := do
  match (← input.read 1).toList with
  | [] => return line.reverse
  | next => if next = [0x0a] then return (next ++ line).reverse else readLine input (next ++ line)

/-- The next reading of an input, of which the given bytes were read before. -/
partial def readNext (batch : Bool) (input : IO.FS.Stream) (before : List UInt8) : IO Reading := do
  let line ← readLine input []
  if line.isEmpty then return .ended
  match Script.ofInput batch (before ++ line) with
  | reading :: _ => return reading
  | [] => readNext batch input (before ++ line)

/-- The files that a reading asks for, as they are now. -/
def filesFor (s : Session) : Reading → IO Files
  | .line text => readTexts ((Shell.wanted? text).map s.resolve).toList
  | _ => readTexts []

/-- The outcome of the shell over what is left of an input. What it shows has been shown. -/
partial def loop (batch : Bool) (input : IO.FS.Stream) (o : Shell.Outcome) :
    IO Shell.Outcome := do
  if ← input.isTty then put (.out (CommandLine.style batch).prompt)
  let reading ← readNext batch input []
  let (o, goesOn) := Shell.step (← filesFor o.session reading) o reading
  o.shown.forM put
  let o := { o with shown := [], events := [], history := [] }
  if goesOn then loop batch input o else return o

/-- The exit status of the program with some arguments. -/
def run (args : List String) : IO Nat := do
  let directory := (← IO.currentDir).toString
  let paths := match CommandLine.parse args with
    | .ok options => options.files.map ({ directory } : Session).resolve
    | .error _ => []
  match CommandLine.prepare (← readTexts paths) directory args with
  | .error e =>
    e.shown.forM put
    return e.status
  | .ok (batch, session) =>
    let style := CommandLine.style batch
    let o := Shell.begin style session
    o.shown.forM put
    let o ← loop batch (← IO.getStdin) { o with shown := [] }
    let e := CommandLine.finish batch (Shell.finish style o)
    e.shown.forM put
    return e.status

end Interlock.Program

/-- The program. -/
def main (args : List String) : IO UInt32 := return UInt32.ofNat (← Interlock.Program.run args)
