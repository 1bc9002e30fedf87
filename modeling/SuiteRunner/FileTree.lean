import SuiteRunner.Path
import SuiteRunner.Text.Utf8

/-!
# Files and directories

`FileTree` holds the files and directories that the program can see.  A path is followed name by name from the root,
or from the working directory.  Every operation is a function from trees to trees, or a fault.

Main definitions:

* `FileFault`, the ways in which an operation fails, with `FileFault.reason` and `FileFault.message`;
* `FileTree` and `FileTree.locate`, which follows a path;
* `readBytes`, `readText`, `list`, `exists?`, `isFile`, `isDirectory`, `absolute`;
* `write`, `append`, `createDirectories`, `remove` and `rename`.
-/

namespace SuiteRunner

/-- The ways in which an operation on files fails. -/
inductive FileFault where
  | notFound
  | notDirectory
  | isDirectory
  | exists
  | nameTooLong
  | permissionDenied
  | notEmpty
  | nulInName
  | notText
  deriving DecidableEq, Repr

/-- The reason that is given for a fault. -/
def FileFault.reason : FileFault → String
  | notFound => "No such file or directory"
  | notDirectory => "Not a directory"
  | isDirectory => "Is a directory"
  | .exists => "File exists"
  | nameTooLong => "File name too long"
  | permissionDenied => "Permission denied"
  | notEmpty => "Directory not empty"
  | nulInName => "file name contained an unexpected NUL byte"
  | notText => "stream did not contain valid UTF-8"

/-- The number that the system has for a fault; not every fault comes from the system. -/
def FileFault.number? : FileFault → Option Nat
  | notFound => some 2
  | notDirectory => some 20
  | isDirectory => some 21
  | .exists => some 17
  | nameTooLong => some 36
  | permissionDenied => some 13
  | notEmpty => some 39
  | nulInName | notText => none

/-- The message of a fault. -/
def FileFault.message (f : FileFault) : String :=
  match f.number? with
  | some n => f.reason ++ " (os error " ++ toString n ++ ")"
  | none => f.reason

/-- What stands at a location. -/
inductive Entry where
  | directory
  | file (content : Bytes)
  deriving DecidableEq, Repr

/-- The names on the way from the root to an entry. -/
abbrev Location := List String

/-- The path of a location. -/
def Location.path (l : Location) : String := "/" ++ "/".intercalate l

/-- Files and directories by their locations, and the working directory.  The root is always there. -/
structure FileTree where
  entries : List (Location × Entry)
  working : Location
  deriving Repr

namespace FileTree

/-! ### Entries -/

/-- What stands at a location. -/
def entry? (t : FileTree) (l : Location) : Option Entry :=
  if l.isEmpty then some .directory else t.entries.lookup l

/-- The entries with one of them set; a new one comes last. -/
def setEntry (l : Location) (e : Entry) : List (Location × Entry) → List (Location × Entry)
  | [] => [(l, e)]
  | (k, old) :: rest => if k = l then (l, e) :: rest else (k, old) :: setEntry l e rest

/-- The tree with an entry at a location. -/
def put (t : FileTree) (l : Location) (e : Entry) : FileTree := { t with entries := setEntry l e t.entries }

/-- The tree without the entry at a location. -/
def drop (t : FileTree) (l : Location) : FileTree := { t with entries := t.entries.filter (·.1 != l) }

/-! ### Following a path -/

/-- How many bytes a name may have. -/
def nameLimit : Nat := 255

/-- How many bytes a path has to stay below. -/
def pathLimit : Nat := 4096

/-- Follows names from a location.  Every name but the last one has to lead to a directory. -/
def follow (t : FileTree) (l : Location) : List String → Except FileFault Location
  | [] => .ok l
  | name :: rest =>
    match t.entry? l with
    | none => .error .notFound
    | some (.file _) => .error .notDirectory
    | some .directory =>
      if name = "" || name = "." then t.follow l rest
      else if name = ".." then t.follow l.dropLast rest
      else if nameLimit < name.utf8ByteSize then .error .nameTooLong
      else t.follow (l ++ [name]) rest

/-- The location of a path; its last name need not exist. -/
def locate (t : FileTree) (path : String) : Except FileFault Location :=
  if path.isEmpty then .error .notFound
  else if path.toList.contains '\x00' then .error .nulInName
  else if pathLimit ≤ path.utf8ByteSize then .error .nameTooLong
  else t.follow (if Path.isAbsolute path then [] else t.working) ((Path.pieces path).map String.ofList)

/-- The location of a path, and what stands there. -/
def find (t : FileTree) (path : String) : Except FileFault (Location × Entry) := do
  let l ← t.locate path
  match t.entry? l with
  | some e => return (l, e)
  | none => throw .notFound

/-! ### Looking -/

/-- Holds when something stands at the path. -/
def exists? (t : FileTree) (path : String) : Bool :=
  match t.find path with
  | .ok _ => true
  | .error _ => false

/-- Holds when a file stands at the path. -/
def isFile (t : FileTree) (path : String) : Bool :=
  match t.find path with
  | .ok (_, .file _) => true
  | _ => false

/-- Holds when a directory stands at the path. -/
def isDirectory (t : FileTree) (path : String) : Bool :=
  match t.find path with
  | .ok (_, .directory) => true
  | _ => false

/-- The absolute path of what stands at a path; without it the path itself. -/
def absolute (t : FileTree) (path : String) : String :=
  match t.find path with
  | .ok (l, _) => l.path
  | .error _ => path

/-- The content of a file. -/
def readBytes (t : FileTree) (path : String) : Except FileFault Bytes := do
  match ← t.find path with
  | (_, .file content) => return content
  | (_, .directory) => throw .isDirectory

/-- The content of a file that is a text. -/
def readText (t : FileTree) (path : String) : Except FileFault (List Char) := do
  match Utf8.decode? (← t.readBytes path) with
  | some text => return text
  | none => throw .notText

/-- The names in the directory at a location, sorted. -/
def namesIn (t : FileTree) (l : Location) : List String :=
  let below := t.entries.filterMap fun (k, _) =>
    if k.dropLast = l then k.getLast? else none
  below.mergeSort fun a b => !(b < a)

/-- The names in a directory, sorted. -/
def list (t : FileTree) (path : String) : Except FileFault (List String) := do
  match ← t.find path with
  | (l, .directory) => return t.namesIn l
  | (_, .file _) => throw .notDirectory

/-! ### Changing -/

/-- The location at which a file may be created or replaced. -/
def target (t : FileTree) (path : String) : Except FileFault Location := do
  let trailing := path.toList.getLast? = some '/'
  let l ← t.locate (if trailing then String.ofList (path.toList.reverse.dropWhile (· = '/')).reverse else path)
  let parent := l.dropLast
  match t.entry? parent, t.entry? l with
  | some .directory, some .directory => throw .isDirectory
  | some .directory, _ => if trailing then throw .isDirectory else return l
  | some (.file _), _ => throw .notDirectory
  | none, _ => throw .notFound

/-- Writes a file, in the place of the one that was there. -/
def write (t : FileTree) (path : String) (content : Bytes) : Except FileFault FileTree :=
  (t.target path).map fun l => t.put l (.file content)

/-- Adds to the end of a file, which is created if it is not there. -/
def append (t : FileTree) (path : String) (content : Bytes) : Except FileFault FileTree := do
  let l ← t.target path
  match t.entry? l with
  | some (.file old) => return t.put l (.file (old ++ content))
  | _ => return t.put l (.file content)

/-- Creates one directory; slashes at the end of its path do not count. -/
def createDirectory (t : FileTree) (path : String) : Except FileFault FileTree := do
  let bare := String.ofList (path.toList.reverse.dropWhile (· = '/')).reverse
  let l ← t.locate (if bare.isEmpty && !path.isEmpty then "/" else bare)
  match t.entry? l, t.entry? l.dropLast with
  | some _, _ => throw .exists
  | none, some .directory => return t.put l .directory
  | none, some (.file _) => throw .notDirectory
  | none, none => throw .notFound

/-- Creates a directory, and before it those on the way to it that are missing; `fuel` bounds their number. -/
def createUpTo (t : FileTree) (path : String) : Nat → Except FileFault FileTree
  | 0 => .error .nameTooLong
  | fuel + 1 =>
    if path.isEmpty then .ok t
    else
      let again (t : FileTree) : Except FileFault FileTree :=
        match t.createDirectory path with
        | .ok t => .ok t
        | .error e => if t.isDirectory path then .ok t else .error e
      match t.createDirectory path with
      | .ok t => .ok t
      | .error .notFound =>
        match Path.parent? path with
        | none => .error .notFound
        | some parent =>
          match t.createUpTo parent fuel with
          | .ok t => again t
          | .error e => .error e
      | .error _ => again t

/-- Creates a directory, and before it those on the way to it that are missing. -/
def createDirectories (t : FileTree) (path : String) : Except FileFault FileTree :=
  t.createUpTo path (path.length + 1)

/-- Removes a file. -/
def remove (t : FileTree) (path : String) : Except FileFault FileTree := do
  match ← t.find path with
  | (l, .file _) => return t.drop l
  | (_, .directory) => throw .isDirectory

/-- The location below `new` of a location below `old`; other locations stay. -/
def relocate (old new l : Location) : Location := if old.isPrefixOf l then new ++ l.drop old.length else l

/-- Moves what stands at a location, and all that is below it, in the place of what was there. -/
def move (t : FileTree) (old new : Location) : FileTree :=
  if old = new then t
  else { t with entries := (t.entries.filter fun e => !new.isPrefixOf e.1).map fun (l, e) => (relocate old new l, e) }

/-- Renames a file, or a directory with all that is in it.  A file takes the place of a file, and a directory that of
an empty directory. -/
def rename (t : FileTree) (source destination : String) : Except FileFault FileTree := do
  let (old, entry) ← t.find source
  let new ← t.locate destination
  match t.entry? new.dropLast with
  | some .directory => pure ()
  | some (.file _) => throw .notDirectory
  | none => throw .notFound
  match entry, t.entry? new with
  | _, none => return t.move old new
  | .file _, some (.file _) => return t.move old new
  | .file _, some .directory => throw .isDirectory
  | .directory, some (.file _) => throw .notDirectory
  | .directory, some .directory =>
    if old = new || (t.namesIn new).isEmpty then return t.move old new else throw .notEmpty

/-- Removes a directory that is empty. -/
def removeDirectory (t : FileTree) (path : String) : Except FileFault FileTree := do
  match ← t.find path with
  | (l, .directory) => if (t.namesIn l).isEmpty then return t.drop l else throw .notEmpty
  | (_, .file _) => throw .notDirectory

/-- Removes what stands at a path, with all that is below it. -/
def removeAll (t : FileTree) (path : String) : Except FileFault FileTree := do
  let (l, _) ← t.find path
  return { t with entries := t.entries.filter fun e => !l.isPrefixOf e.1 }

/-- The size of a file in bytes; a directory has the size of one block. -/
def size? (t : FileTree) (path : String) : Option Nat :=
  match t.find path with
  | .ok (_, .file content) => some content.length
  | .ok (_, .directory) => some 4096
  | .error _ => none

end FileTree

end SuiteRunner
