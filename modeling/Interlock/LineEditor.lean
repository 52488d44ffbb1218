import Interlock.LineEditor.Completion
import Interlock.Shell.Brackets
import Interlock.Shell.Run
import Interlock.Text.Cluster

/-!
# The line editor

On a terminal, lines are edited key by key. The cursor stands between the clusters of the line. The
editor keeps a history, whose lines can be recalled and which hints at the rest of a line; the hint
is looked up when the line changes, and stays while the cursor moves. The editor completes words,
and it goes on with a further line while a bracket is open.

* `LineEditor.Key`: the keys. `Key.ofInput`: the keys which were typed.
* `LineEditor.press`: what one key does.
* `LineEditor.readings`: what the shell reads while some keys are typed.
-/

namespace Interlock

open Text

/-- A key of the terminal, by what it does. -/
inductive LineEditor.Key where
  | char (c : Char)
  | enter
  | start
  | finish
  | left
  | right
  /-- To the right, or at the end of the line to the end of the hint. -/
  | forward
  | interrupt
  | close
  | previous
  | tab
  /-- Takes back the cluster before the cursor. -/
  | erase
  /-- A control character which means nothing here. -/
  | idle
  deriving DecidableEq

namespace LineEditor

/-- The key of a control character, or of a character which is typed as it is. -/
def Key.ofChar (c : Char) : Key :=
  if c = '\x01' then .start
  else if c = '\x02' then .left
  else if c = '\x03' then .interrupt
  else if c = '\x04' then .close
  else if c = '\x05' then .finish
  else if c = '\x06' then .right
  else if c = '\t' then .tab
  else if c = '\r' ∨ c = '\n' then .enter
  else if c = '\x10' then .previous
  else if c = '\x08' ∨ c = '\x7f' then .erase
  else if c.toNat < 0x20 ∨ 0x7f ≤ c.toNat ∧ c.toNat < 0xa0 then .idle
  else .char c

/-- The keys which were typed, from what the terminal sends for them. -/
def Key.ofInput : List Char → List Key
  | '\x1b' :: '[' :: 'C' :: cs => .forward :: ofInput cs
  | c :: cs => ofChar c :: ofInput cs
  | [] => []

/-- A completion which further tabs go through: the line as it was, and what it can become. -/
structure Cycle where
  before : List Char
  /-- What stands before the completed word. -/
  kept : List Char
  candidates : List String
  /-- The candidate which is shown; behind the last one, the line as it was is shown. -/
  index : Nat

end LineEditor

/-- A line which is being edited. -/
structure LineEditor where
  tree : FileTree := {}
  /-- The lines read before, the oldest first. -/
  history : List String := []
  /-- The line of the history which was recalled; behind the last one, none was. -/
  index : Nat := 0
  /-- What stands before the cursor. -/
  before : List Char := []
  /-- What stands behind the cursor. -/
  after : List Char := []
  /-- What the history had behind the line when the line was last changed. -/
  hint : List Char := []
  cycle : Option LineEditor.Cycle := none

namespace LineEditor

/-- The whole line. -/
def text (e : LineEditor) : List Char := e.before ++ e.after

/-- The rest of the newest line of the history which starts with the line, if the cursor is at the
    end of one. Lines behind a recalled one do not count. -/
def lookUpHint (e : LineEditor) : List Char :=
  if e.text.isEmpty || !e.after.isEmpty then []
  else
    match ((e.history.take (e.index + 1)).reverse.find? fun h => e.text.isPrefixOf h.toList) with
    | some h => h.toList.drop e.text.length
    | none => []

/-- The editor with the hint for its line. -/
def refresh (e : LineEditor) : LineEditor := { e with hint := e.lookUpHint }

/-- The editor with a text written at the cursor. -/
def insert (e : LineEditor) (text : List Char) : LineEditor :=
  { e with before := e.before ++ text }.refresh

/-- The editor with a candidate shown. -/
def showCandidate (e : LineEditor) (cycle : Cycle) : LineEditor :=
  let before := match cycle.candidates[cycle.index]? with
    | some candidate => cycle.kept ++ candidate.toList
    | none => cycle.before
  { e with before, cycle := some cycle }.refresh

/-- What a key did: the line is still edited, or it was read. -/
inductive Step where
  | editing (e : LineEditor)
  | read (r : Reading)

/-- The tab key: the first candidate for the word before the cursor, or the next one. -/
def pressTab (e : LineEditor) : Step :=
  match e.cycle with
  | some cycle =>
    let index := (cycle.index + 1) % (cycle.candidates.length + 1)
    .editing (e.showCandidate { cycle with index })
  | none =>
    match completion? e.tree e.text (byteSize e.before) with
    | none => .read .crashed
    | some (_, []) => .editing e
    | some (start, candidates) =>
      let kept := ((splitAtByte start e.before).map (·.1)).getD []
      .editing (e.showCandidate { before := e.before, kept, candidates, index := 0 })

/-- The key which goes to the left. -/
def moveLeft (e : LineEditor) : LineEditor :=
  let (before, passed) := splitLastCluster e.before
  { e with before, after := passed ++ e.after }

/-- The key which goes to the right. -/
def moveRight (e : LineEditor) : LineEditor :=
  let (passed, after) := splitFirstCluster e.after
  { e with before := e.before ++ passed, after }

theorem text_moveLeft (e : LineEditor) : e.moveLeft.text = e.text := by
  rw [text, text, moveLeft, ← List.append_assoc, splitLastCluster_append]

theorem text_moveRight (e : LineEditor) : e.moveRight.text = e.text := by
  rw [text, text, moveRight, List.append_assoc, splitFirstCluster_append]

/-- The key which goes to the start of a line. A text may have several. -/
def moveToStart (e : LineEditor) : LineEditor :=
  let passed := (e.before.reverse.takeWhile (· != '\n')).reverse
  { e with before := e.before.take (e.before.length - passed.length), after := passed ++ e.after }

/-- The key which goes to the end of a line. -/
def moveToEnd (e : LineEditor) : LineEditor :=
  { e with before := e.before ++ e.after.takeWhile (· != '\n'),
           after := e.after.dropWhile (· != '\n') }

/-- The editor with the line of the history before the present one. -/
def showPrevious (e : LineEditor) : LineEditor :=
  match e.index with
  | 0 => e
  | index + 1 =>
    let before := (e.history[index]?.map String.toList).getD []
    { e with index, before, after := [] }.refresh

/-- What a key does. Every key but the tab ends a completion. -/
def press (e : LineEditor) (key : Key) : Step :=
  let edited := { e with cycle := none }
  match key with
  | .tab => e.pressTab
  | .char c => .editing (edited.insert [c])
  | .enter =>
    if Shell.isIncomplete e.text then .editing (edited.insert ['\n'])
    else .read (.line (String.ofList e.text))
  | .start => .editing edited.moveToStart
  | .finish => .editing edited.moveToEnd
  | .left => .editing edited.moveLeft
  | .right => .editing edited.moveRight
  | .forward =>
    if e.after.isEmpty then .editing (if e.hint.isEmpty then edited else edited.insert e.hint)
    else .editing edited.moveRight
  | .interrupt => .read .interrupted
  | .close =>
    if e.text.isEmpty then .read .ended
    else if e.after.isEmpty then .editing edited
    else .editing { edited with after := (splitFirstCluster e.after).2 }.refresh
  | .previous => .editing edited.showPrevious
  | .erase =>
    if e.before.isEmpty then .editing edited
    else .editing { edited with before := (splitLastCluster e.before).1 }.refresh
  | .idle => .editing edited

/-- The number of lines that a history keeps. -/
def historySize : Nat := 1000

/-- The history with one more line, unless the line is the newest one already. A full history loses
    its oldest line. -/
def remember (history : List String) (line : String) : List String :=
  if history.getLast? = some line then history
  else history.drop (history.length + 1 - historySize) ++ [line]

/-- The editor for the line behind a reading. -/
def afterReading (e : LineEditor) (r : Reading) : LineEditor :=
  let history := match r with
    | .line text =>
      if Shell.isIdle (trim text.toList) then e.history else remember e.history text
    | _ => e.history
  { tree := e.tree, history, index := history.length }

/-- What the shell reads while some keys are typed. -/
def readingsFrom (e : LineEditor) : List Key → List Reading
  | [] => []
  | key :: keys =>
    match e.press key with
    | .editing e' => e'.readingsFrom keys
    | .read r => r :: (e.afterReading r).readingsFrom keys

/-- What the shell reads while some text is typed, in a directory. -/
def readings (tree : FileTree) (typed : List Char) : List Reading :=
  ({ tree } : LineEditor).readingsFrom (Key.ofInput typed)

end LineEditor

end Interlock
