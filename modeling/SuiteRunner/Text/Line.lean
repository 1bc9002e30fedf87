import SuiteRunner.Unicode.Property

/-!
# Lines and white space

Texts are lists of characters.  This module cuts a text into lines and trims white space.

Main definitions:

* `trimStart`, `trimEnd`, `trim` and `isBlank`;
* `lines`, the lines of a text: a line ends at a line feed, and a carriage return just before it belongs to the
  line end;
* `joinLines`, which ends every line with a line feed.
-/

namespace SuiteRunner.Text

open SuiteRunner.Unicode

/-! ### White space -/

/-- The text without the white space at its front. -/
def trimStart (s : List Char) : List Char := s.dropWhile isWhite

/-- The text without the white space at its end. -/
def trimEnd (s : List Char) : List Char := (s.reverse.dropWhile isWhite).reverse

/-- The text without the white space at both ends. -/
def trim (s : List Char) : List Char := trimEnd (trimStart s)

/-- Holds when the text is empty or white space throughout. -/
def isBlank (s : List Char) : Bool := s.all isWhite

/-! ### Lines -/

/-- The line without one carriage return at its end. -/
def dropReturn (line : List Char) : List Char :=
  if line.getLast? = some '\r' then line.dropLast else line

/-- Cuts at line feeds; `current` holds the characters of the open line, last first.  An empty rest after the
last line feed is no line. -/
def linesFrom (current : List Char) : List Char → List (List Char)
  | [] => if current.isEmpty then [] else [current.reverse]
  | c :: rest =>
    if c = '\n' then dropReturn current.reverse :: linesFrom [] rest
    else linesFrom (c :: current) rest

/-- The lines of a text, without their line ends. -/
def lines (s : List Char) : List (List Char) := linesFrom [] s

/-- The pieces of a text between its line feeds; an empty piece after the last one is kept, so there is always at
least one. -/
def splitLines : List Char → List (List Char)
  | [] => [[]]
  | c :: s =>
    if c = '\n' then [] :: splitLines s
    else
      match splitLines s with
      | [] => [[c]]
      | piece :: pieces => (c :: piece) :: pieces

/-- The text of the lines, each ended by a line feed. -/
def joinLines (ls : List (List Char)) : List Char := ls.flatMap (· ++ ['\n'])

end SuiteRunner.Text
