import Interlock.RuleFile

/-!
# Directory trees

A directory with its files, as a value. Paths are followed as a POSIX system follows them, and what
goes wrong has the text that such a system gives.

* `FileTree.follow`: where a path leads.
* `FileTree.files`: the texts that can be read, for a tree which stands at a given place.
* `FileTree.children`: the entries of a directory.
-/

namespace Interlock

/-- The files of a directory and of those below it. -/
structure FileTree where
  /-- The paths of files, each as a list of names, with the bytes of the file. -/
  files : List (List String × List UInt8) := []
  /-- The paths of further directories. Those on the way to an entry need not be named. -/
  directories : List (List String) := []

namespace FileTree

/-- Where a path has led: to a place in the tree, or out of it. -/
inductive Position where
  | inside (path : List String)
  | outside

/-- The bytes of the file at a place. -/
def file? (t : FileTree) (path : List String) : Option (List UInt8) :=
  (t.files.find? fun e => e.1 == path).map (·.2)

/-- A directory stands at a place: the tree itself, or one that is named or leads to an entry. -/
def isDirectory (t : FileTree) (path : List String) : Bool :=
  path.isEmpty || t.directories.any (path.isPrefixOf ·) ||
    t.files.any fun e => e.1 != path && path.isPrefixOf e.1

/-- Nothing stands at a path. -/
def notFound : String := "No such file or directory (os error 2)"

/-- A path goes on behind something which is no directory. -/
def notDirectory : String := "Not a directory (os error 20)"

/-- A directory cannot be read as a file. -/
def isADirectory : String := "Is a directory (os error 21)"

/-- A name, or a path as a whole, is longer than these can be. -/
def nameTooLong : String := "File name too long (os error 36)"

/-- A file is no text. -/
def notText : String := "stream did not contain valid UTF-8"

/-- A path has a character which no path can have. -/
def nulInPath : String := "file name contained an unexpected NUL byte"

/-- The place behind one more name of a path. -/
def enter (t : FileTree) (place : Position) (name : String) : Except String Position :=
  match place with
  | .outside =>
    if name = "" ∨ name = "." ∨ name = ".." then .ok .outside
    else if 255 < name.utf8ByteSize then .error nameTooLong
    else .error notFound
  | .inside path =>
    if !t.isDirectory path then .error notDirectory
    else if name = "" ∨ name = "." then .ok place
    else if name = ".." then
      .ok (if path.isEmpty then .outside else .inside path.dropLast)
    else if 255 < name.utf8ByteSize then .error nameTooLong
    else if t.isDirectory (path ++ [name]) || (t.file? (path ++ [name])).isSome then
      .ok (.inside (path ++ [name]))
    else .error notFound

/-- Where the names of a path lead. -/
def follow (t : FileTree) (place : Position) : List String → Except String Position
  | [] => .ok place
  | name :: names => do t.follow (← t.enter place name) names

/-- The names of a path between its separators. -/
def names (path : List Char) : List String :=
  (Text.chunks (· == '/') path).map fun name =>
    String.ofList (if name.getLast? = some '/' then name.dropLast else name)

/-- The names of a path, with an empty one at the end if it ends in a separator. -/
def components (path : List Char) : List String :=
  names path ++ if path.getLast? = some '/' then [""] else []

/-- The text of the file to which some names lead. -/
def readAt (t : FileTree) (place : Position) (names : List String) : Except String String := do
  match ← t.follow place names with
  | .outside => .error isADirectory
  | .inside path =>
    match t.file? path with
    | none => .error isADirectory
    | some bytes =>
      match String.fromUTF8? ⟨bytes.toArray⟩ with
      | some text => .ok text
      | none => .error notText

/-- The texts of a tree which stands at a place. Relative paths start in the tree, and so do those
    which begin with the path of the tree; other absolute paths start outside. -/
def read (t : FileTree) (home : String) : Files := fun text =>
  let path := text.toList
  if path.contains '\x00' then .error nulInPath
  else if path.isEmpty then .error notFound
  else if 4096 ≤ text.utf8ByteSize then .error nameTooLong
  else if !home.isEmpty && (home.toList ++ ['/']).isPrefixOf path then
    t.readAt (.inside []) (components (path.drop home.length))
  else if path.head? = some '/' then t.readAt .outside (components path)
  else t.readAt (.inside []) (components path)

/-- The names of the entries of a directory, each with whether it is a directory. -/
def children (t : FileTree) (path : List String) : List (String × Bool) :=
  let below := (t.files.map (·.1) ++ t.directories).filterMap fun p =>
    if path.isPrefixOf p then (p.drop path.length).head? else none
  let entries := below.eraseDups.mergeSort fun a b => a ≤ b
  entries.map fun name => (name, t.isDirectory (path ++ [name]))

end FileTree

end Interlock
