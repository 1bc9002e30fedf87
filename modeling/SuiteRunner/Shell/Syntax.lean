/-!
# The shell language

Scripts as trees.  The language is the part of the common shell language that model scripts are written in: lists,
pipelines, conditions, loops, groups, redirections, parameters, arithmetic and command substitution.

Main definitions:

* `Piece` and `Word`;
* `Redirect`;
* `Phrase`, a command with all that belongs to it.
-/

namespace SuiteRunner.Shell

/-- A piece of a word.  What is expanded outside of quotes is split at white space. -/
inductive Piece where
  | text (s : String) (quoted : Bool)
  /-- A parameter.  The operator with its word, as in a default value, is kept as it is written. -/
  | parameter (name : String) (rest : String) (quoted : Bool)
  | arithmetic (source : String) (quoted : Bool)
  | output (script : String) (quoted : Bool)
  deriving DecidableEq, Repr

/-- A word, before its expansion. -/
abbrev Word := List Piece

/-- The ways to redirect a file descriptor. -/
inductive RedirectKind where
  /-- From a file. -/
  | input
  /-- To a file that is emptied first. -/
  | output
  /-- To the end of a file. -/
  | append
  /-- To where another descriptor goes. -/
  | duplicate
  /-- From a text in the script. -/
  | here
  deriving DecidableEq, Repr

/-- A redirection of a file descriptor. -/
structure Redirect where
  descriptor : Nat
  kind : RedirectKind
  target : Word
  deriving DecidableEq, Repr

/-- A command with all that belongs to it. -/
inductive Phrase where
  /-- Assignments, and a program with its arguments, on a line of the script. -/
  | simple (line : Nat) (assignments : List (String × Word)) (words : List Word) (redirects : List Redirect)
  | sequence (items : List Phrase)
  | both (first second : Phrase)
  | either (first second : Phrase)
  | negate (body : Phrase)
  | pipeline (first second : Phrase)
  | background (body : Phrase)
  | subshell (body : Phrase)
  | branch (test body otherwise : Phrase)
  /-- Runs the body as long as the test ends with success, or with `fails` as long as it does not. -/
  | loop (fails : Bool) (test body : Phrase)
  | each (name : String) (words : Option (List Word)) (body : Phrase)
  | redirected (body : Phrase) (redirects : List Redirect)
  deriving Repr

/-- Does nothing. -/
def Phrase.nothing : Phrase := .sequence []

/-- The word of a text. -/
def Word.ofText (s : String) : Word := [.text s false]

end SuiteRunner.Shell
