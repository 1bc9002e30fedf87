/-!
# XML documents

Elements with attributes, and their text with every element on a line of its own.

Main definitions:

* `Xml`, an element with a text or with elements inside;
* `Xml.escape`, which also drops what XML does not allow;
* `Xml.document`, an element as a document.
-/

namespace SuiteRunner

/-- An element. -/
inductive Xml where
  /-- An element with a text, or without anything inside. -/
  | leaf (name : String) (attributes : List (String × String)) (text : Option String)
  /-- An element with elements inside. -/
  | branch (name : String) (attributes : List (String × String)) (children : List Xml)
  deriving Repr, Inhabited

namespace Xml

/-- Holds for the characters that a document may have. -/
def isAllowed (c : Char) : Bool :=
  c = '\t' || c = '\n' || c = '\r' || (' ' ≤ c && c != '\uFFFE' && c != '\uFFFF')

/-- A character of a text. -/
def escapeChar (c : Char) : List Char :=
  match c with
  | '&' => ['&', 'a', 'm', 'p', ';']
  | '<' => ['&', 'l', 't', ';']
  | '>' => ['&', 'g', 't', ';']
  | '"' => ['&', 'q', 'u', 'o', 't', ';']
  | '\'' => ['&', 'a', 'p', 'o', 's', ';']
  | c => if isAllowed c then [c] else []

/-- A text with the signs of markup replaced, and without the characters that are not allowed. -/
def escape (s : String) : String := String.ofList (s.toList.flatMap escapeChar)

/-- An attribute after a blank. -/
def attributeText (a : String × String) : String := " " ++ a.1 ++ "=\"" ++ escape a.2 ++ "\""

/-- The start of a tag, without its end. -/
def opening (name : String) (attributes : List (String × String)) : String :=
  "<" ++ name ++ String.join (attributes.map attributeText)

/-- The blanks in front of an element inside of `level` others. -/
def indent (level : Nat) : String := String.ofList (List.replicate (2 * level) ' ')

mutual

/-- The lines of an element inside of `level` others. -/
def render (level : Nat) : Xml → String
  | leaf name attributes none => indent level ++ opening name attributes ++ "/>\n"
  | leaf name attributes (some text) =>
    indent level ++ opening name attributes ++ ">" ++ escape text ++ "</" ++ name ++ ">\n"
  | branch name attributes children =>
    indent level ++ opening name attributes ++ ">\n" ++ renderAll (level + 1) children ++ indent level ++ "</" ++
      name ++ ">\n"

/-- The lines of elements inside of `level` others. -/
def renderAll (level : Nat) : List Xml → String
  | [] => ""
  | x :: xs => render level x ++ renderAll level xs

end

/-- An element as a document. -/
def document (root : Xml) : String := "<?xml version=\"1.0\" encoding=\"UTF-8\"?>\n" ++ render 0 root

end Xml

end SuiteRunner
