import SuiteRunner.Regex.Fault

/-!
# Syntax trees of regular expressions

The tree that a regular expression is read into, before its flags take effect.

Main definitions:

* `Flag` and `FlagChange`;
* `ClassSet`, what stands between square brackets;
* `Ast`, an expression, and `Ast.depth`, how deep it nests.
-/

namespace SuiteRunner.Regex

/-- The switches of a regular expression, by their letters `i`, `m`, `s`, `U`, `u`, `R` and `x`. -/
inductive Flag where
  | ignoreCase
  | multiLine
  | dotAll
  | swapGreed
  | unicode
  | crlf
  | verbose
  deriving DecidableEq, Repr

namespace Flag

/-- The flag of a letter. -/
def ofChar? : Char → Option Flag
  | 'i' => some ignoreCase
  | 'm' => some multiLine
  | 's' => some dotAll
  | 'U' => some swapGreed
  | 'u' => some unicode
  | 'R' => some crlf
  | 'x' => some verbose
  | _ => none

end Flag

/-- A flag turned on or off. -/
abbrev FlagChange := Flag × Bool

/-- The last change of a flag in a list of changes. -/
def changeOf? (flag : Flag) (changes : List FlagChange) : Option Bool :=
  (changes.reverse.find? fun c => c.1 == flag).map (·.2)

/-- A character of an expression; `byte` holds when it was written as two hexadecimal digits. -/
structure Literal where
  span : Span
  char : Char
  byte : Bool
  deriving DecidableEq, Repr, Inhabited

/-- The classes `\d`, `\s` and `\w`. -/
inductive PerlClass where
  | digit
  | space
  | word
  deriving DecidableEq, Repr

/-- The classes written `[:name:]` inside brackets. -/
inductive PosixClass where
  | alnum | alpha | ascii | blank | cntrl | digit | graph | lower | print | punct | space | upper | word | xdigit
  deriving DecidableEq, Repr

namespace PosixClass

/-- The names of the classes. -/
def names : List (String × PosixClass) := [
  ("alnum", alnum), ("alpha", alpha), ("ascii", ascii), ("blank", blank), ("cntrl", cntrl), ("digit", digit),
  ("graph", graph), ("lower", lower), ("print", print), ("punct", punct), ("space", space), ("upper", upper),
  ("word", word), ("xdigit", xdigit)]

/-- The class of a name. -/
def ofName? (name : String) : Option PosixClass := names.lookup name

end PosixClass

/-- What a property class asks for: a name by itself, or a property and its value; `differs` holds when the value
is written after `!=`. -/
inductive PropertyQuery where
  | letter (c : Char)
  | named (name : String)
  | valued (differs : Bool) (name value : String)
  deriving DecidableEq, Repr

/-- The operators between the sets of a bracketed class. -/
inductive SetOperator where
  | intersection
  | difference
  | symmetricDifference
  deriving DecidableEq, Repr

/-- A set of characters as written between square brackets. -/
inductive ClassSet where
  | empty
  | literal (lit : Literal)
  | range (first last : Literal)
  | perl (span : Span) (kind : PerlClass) (negated : Bool)
  | posix (kind : PosixClass) (negated : Bool)
  | property (span : Span) (query : PropertyQuery) (negated : Bool)
  | union (left right : ClassSet)
  | binary (op : SetOperator) (left right : ClassSet)
  | bracketed (span : Span) (negated : Bool) (set : ClassSet)
  deriving Repr, Inhabited

namespace ClassSet

/-- How deep the brackets and operators of a set nest. -/
def depth : ClassSet → Nat
  | union l r => max l.depth r.depth
  | binary _ l r => max l.depth r.depth + 1
  | bracketed _ _ s => s.depth + 1
  | _ => 0

end ClassSet

/-- Conditions on a place of the text, as written. -/
inductive Assertion where
  | lineStart
  | lineEnd
  | textStart
  | textEnd
  | wordBoundary
  | notWordBoundary
  | wordStart
  | wordEnd
  | wordStartHalf
  | wordEndHalf
  deriving DecidableEq, Repr

/-- A regular expression. -/
inductive Ast where
  | empty
  | flags (changes : List FlagChange)
  | literal (lit : Literal)
  | dot (span : Span)
  | assertion (kind : Assertion)
  | perl (span : Span) (kind : PerlClass) (negated : Bool)
  | property (span : Span) (query : PropertyQuery) (negated : Bool)
  | bracketed (span : Span) (set : ClassSet)
  | repetition (min : Nat) (max : Option Nat) (greedy : Bool) (item : Ast)
  | group (changes : List FlagChange) (item : Ast)
  | alternation (items : List Ast)
  | sequence (items : List Ast)
  deriving Repr, Inhabited

namespace Ast

/-- The tree of the expressions that follow one another. -/
def ofSequence : List Ast → Ast
  | [] => empty
  | [item] => item
  | items => sequence items

mutual

/-- How deep groups, classes, repetitions, sequences and alternations nest. -/
def depth : Ast → Nat
  | bracketed _ s => s.depth
  | repetition _ _ _ item => item.depth + 1
  | group _ item => item.depth + 1
  | alternation items => depthOfAll items + 1
  | sequence items => depthOfAll items + 1
  | _ => 0

/-- The greatest depth in a list of expressions. -/
def depthOfAll : List Ast → Nat
  | [] => 0
  | item :: items => max item.depth (depthOfAll items)

end

end Ast

end SuiteRunner.Regex
