import Interlock.FileTree
import Interlock.Text.Offset

/-!
# Completion

The word before the cursor is completed with a word of the language or a command of the shell, and
behind `:load` with the name of a file.

* `complete?`: where the word starts and how it can go on. Places are byte offsets; there is no
  answer if the word is found to start inside a character.
* `completeFile`: the same for the names of files.
* `completion?`: which of the two a line asks for.
-/

namespace Interlock.LineEditor

open Text

/-- The words that completion offers, in order. -/
def keywords : List String :=
  ["ACTION", "IS", "BLOCKED", "BY", "IF", "AND", "OR", "NOT", "LESS", "MORE", "THAN", "OVERLAPS",
    "WITH", ":rules", ":load", ":eval", ":check", ":clear", ":help", ":quit"]

/-- The byte behind the place where the last blank of a text starts; zero if it has none. -/
def wordStart (before : List Char) : Nat :=
  match (before.reverse.dropWhile fun c => !isBlank c) with
  | [] => 0
  | _ :: rest => byteSize rest.reverse + 1

/-- The line asks for the name of a file. -/
def wantsFile (line : List Char) : Bool :=
  [':', 'l', 'o', 'a', 'd', ' '].isPrefixOf (trimStart line)

/-- Where the word before a place in a line starts, and the words which start with it. -/
def complete? (line : List Char) (position : Nat) : Option (Nat × List String) := do
  let (before, _) ← splitAtByte position line
  let start := wordStart before
  let word ← slice start position line
  return (start, keywords.filter fun k => word.isPrefixOf k.toList)

/-- The characters which end the name of a file unless a backslash stands before them. -/
def isBreak (c : Char) : Bool :=
  c == ' ' || c == '\t' || c == '\n' || c == '"' || c == '\\' || c == '\'' || c == '\x60' ||
    c == '@' || c == '$' || c == '>' || c == '<' || c == '=' || c == ';' || c == '|' || c == '&' ||
    c == '\x7b' || c == '(' || c == '\x00'

/-- The number of characters of the name at the end of a text, which is given backwards. -/
def nameLength : List Char → Nat
  | [] => 0
  | c :: '\\' :: cs => if isBreak c then nameLength cs + 2 else nameLength ('\\' :: cs) + 1
  | c :: cs => if isBreak c then 0 else nameLength cs + 1

/-- The quote which is left open in a text, and what stands behind it; given the one which is open
    before the text. A backslash keeps the character behind it from being a quote, but not between
    single quotes. -/
def openQuote? (opened : Option (Char × List Char)) : List Char → Option (Char × List Char)
  | [] => opened
  | '\\' :: c :: cs =>
    match opened with
    | some ('\'', behind) => openQuote? (if c = '\'' then none else some ('\'', behind)) cs
    | _ => openQuote? opened cs
  | c :: cs =>
    match opened with
    | none => openQuote? (if c = '"' ∨ c = '\'' then some (c, cs) else none) cs
    | some (quote, behind) => openQuote? (if c = quote then none else some (quote, behind)) cs

/-- A name without the backslashes that keep its characters together. -/
def unescape : List Char → List Char
  | ['\\'] => []
  | '\\' :: c :: cs => c :: unescape cs
  | c :: cs => c :: unescape cs
  | [] => []

/-- A name with a backslash before each character that would end it or, between double quotes, would
    mean something there. Between single quotes nothing does. -/
def escapeName (quote : Option Char) (name : List Char) : List Char :=
  let isSpecial (c : Char) : Bool :=
    match quote with
    | none => isBreak c
    | some '"' => c == '"' || c == '$' || c == '\\' || c == '\x60'
    | some _ => false
  name.flatMap fun c => if isSpecial c then ['\\', c] else [c]

/-- The name of a file at the end of a text as it is written there, and the quote which was opened
    before it, if one was. -/
def writtenName (before : List Char) : Option Char × List Char :=
  match openQuote? none before with
  | some (quote, behind) => (some quote, behind)
  | none => (none, before.drop (before.length - nameLength before.reverse))

/-- The entries of the directory to which a path leads, each with whether it is a directory. A path
    from the root, or from the home directory, leads out of the tree. -/
def entriesAt (tree : FileTree) (directory : List Char) : List (String × Bool) :=
  match (FileTree.names directory).head? with
  | some "" | some "~" => []
  | _ =>
    match tree.follow (.inside []) (FileTree.components directory) with
    | .ok (.inside place) => tree.children place
    | _ => []

/-- Where the name of a file before the cursor starts, and the names which start with it.
    Directories have a separator behind them. -/
def completeFile (tree : FileTree) (before : List Char) : Nat × List String :=
  let (quote, written) := writtenName before
  let path := if quote = some '\'' then written else unescape written
  let name := (path.reverse.takeWhile (· != '/')).reverse
  let directory := path.take (path.length - name.length)
  let fitting := (entriesAt tree directory).filter fun (entry, _) => name.isPrefixOf entry.toList
  let whole := fitting.map fun (entry, isDirectory) =>
    String.ofList <| escapeName quote <|
      directory ++ entry.toList ++ if isDirectory then ['/'] else []
  (byteSize before - byteSize written, whole)

/-- Where the word before a place in a line starts, and how it can go on: as the name of a file if
    the line asks for one, and else as a word of the language or a command. -/
def completion? (tree : FileTree) (line : List Char) (position : Nat) :
    Option (Nat × List String) :=
  if wantsFile line then (splitAtByte position line).map fun (before, _) => completeFile tree before
  else complete? line position

end Interlock.LineEditor
