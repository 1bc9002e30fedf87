import SuiteRunner.Text.Search

/-!
# Paths

A path is a text of names between slashes.  Nothing here looks at any file.

Main definitions:

* `join`, a path below a directory;
* `parent?`, `name?`, `stem` and `extension?`, the parts of a path;
* `expandHome`, which puts the home directory in the place of a tilde.

A name that is empty, or a dot that is not the first name, has no meaning in a path.
-/

namespace SuiteRunner.Path

/-- The pieces of a path between its slashes; an absolute path has an empty first piece. -/
def pieces (p : String) : List (List Char) := Text.splitOn '/' p.toList

/-- Holds when the path starts at the root. -/
def isAbsolute (p : String) : Bool := p.toList.head? = some '/'

/-- The text of pieces, with slashes between them. -/
def ofPieces (ps : List (List Char)) : String := String.ofList (List.intercalate ['/'] ps)

/-- The path `p` below the directory `dir`; an absolute path stays as it is. -/
def join (dir p : String) : String :=
  if isAbsolute p then p
  else if dir.isEmpty || dir.toList.getLast? = some '/' then dir ++ p
  else dir ++ "/" ++ p

/-- Holds for a piece that names nothing when it is not the first one. -/
def isIdle (piece : List Char) : Bool := piece.isEmpty || piece = ['.']

/-- The pieces, last first, without those at the end that name nothing. -/
def dropIdle : List (List Char) → List (List Char)
  | [] => []
  | [p] => [p]
  | p :: ps => if isIdle p then dropIdle ps else p :: ps

/-- The pieces of a path, last first, up to the last one that names something. -/
def trimmed (p : String) : List (List Char) := dropIdle (pieces p).reverse

/-- The path without its last name; neither the root nor the empty path has a parent. -/
def parent? (p : String) : Option String :=
  match trimmed p with
  | [] => none
  | [piece] => if piece.isEmpty then none else some ""
  | _ :: ps =>
    match dropIdle ps with
    | [[]] => some "/"
    | ps => some (ofPieces ps.reverse)

/-- The last name of a path. -/
def name? (p : String) : Option String :=
  match trimmed p with
  | [] => none
  | piece :: _ => if isIdle piece || piece = ['.', '.'] then none else some (String.ofList piece)

/-- The characters before and after the last dot.  Without a dot, or with one in front only, there is nothing
after. -/
def splitName (name : List Char) : List Char × Option (List Char) :=
  let after := name.reverse.takeWhile (· != '.')
  let before := (name.reverse.drop (after.length + 1)).reverse
  if before.isEmpty then (name, none) else (before, some after.reverse)

/-- The last name of a path without its extension. -/
def stem? (p : String) : Option String := (name? p).map fun n => String.ofList (splitName n.toList).1

/-- The extension of a path: what follows the last dot of its name. -/
def extension? (p : String) : Option String :=
  (name? p).bind fun n => (splitName n.toList).2.map String.ofList

/-- The path with the home directory in the place of a tilde in front. -/
def expandHome (home : Option String) (p : String) : String :=
  match p.toList, home with
  | '~' :: '/' :: rest, some home => join home (String.ofList rest)
  | _, _ => p

end SuiteRunner.Path
