import SuiteRunner.Text.Numeral

/-!
# Walking over a text

A place in a text with its line and column, both from zero, and the character classes of YAML.  The character NUL
ends a text; at the end every look ahead shows NUL.

Main definitions:

* `Cursor`, with `peek`, `skip`, `skipLine` and `span`.
-/

namespace SuiteRunner.Yaml

/-! ### Character classes -/

/-- The end of the text. -/
def isEnd (c : Char) : Bool := c = '\x00'

/-- Line breaks. -/
def isBreak (c : Char) : Bool := c = '\n' || c = '\r'

/-- Line breaks and the end. -/
def isBreakOrEnd (c : Char) : Bool := isBreak c || isEnd c

/-- Spaces and tabs. -/
def isBlank (c : Char) : Bool := c = ' ' || c = '\t'

/-- Spaces, tabs, line breaks and the end. -/
def isBlankOrEnd (c : Char) : Bool := isBlank c || isBreakOrEnd c

/-- Characters of names. -/
def isNameChar (c : Char) : Bool :=
  Unicode.isAsciiDigit c || Unicode.isAsciiLetter c || c = '_' || c = '-'

/-- Signs of flow collections. -/
def isFlowSign (c : Char) : Bool := c = ',' || c = '[' || c = ']' || c = '\x7b' || c = '\x7d'

/-! ### Cursors -/

/-- A place in a text: what follows, and how far it is from the start. -/
structure Cursor where
  rest : List Char
  index : Nat
  line : Nat
  col : Nat

namespace Cursor

/-- The start of a text. -/
def start (text : List Char) : Cursor := ⟨text.takeWhile (!isEnd ·), 0, 0, 0⟩

/-- The character `n` places ahead. -/
def peek (c : Cursor) (n : Nat) : Char := (c.rest[n]?).getD '\x00'

/-- The next character. -/
def head (c : Cursor) : Char := c.rest.head?.getD '\x00'

/-- The place after the next character. -/
def skip (c : Cursor) : Cursor :=
  match c.rest with
  | [] => c
  | '\n' :: rest => ⟨rest, c.index + 1, c.line + 1, 0⟩
  | _ :: rest => ⟨rest, c.index + 1, c.line, c.col + 1⟩

/-- The place after `n` characters. -/
def skipN (c : Cursor) : Nat → Cursor
  | 0 => c
  | n + 1 => c.skip.skipN n

/-- The place after a line break, if there is one. -/
def skipLine (c : Cursor) : Cursor :=
  if c.head = '\r' && c.peek 1 = '\n' then c.skipN 2
  else if isBreak c.head then c.skip
  else c

/-- The characters from here on that satisfy `p`, and the place after them. -/
def span (p : Char → Bool) (c : Cursor) : List Char × Cursor :=
  let taken := c.rest.takeWhile p
  (taken, c.skipN taken.length)

/-- The place after the characters that satisfy `p`. -/
def skipWhile (p : Char → Bool) (c : Cursor) : Cursor := (c.span p).2

/-- Holds at a document mark: three dashes or dots at the start of a line, and a blank or the end after them. -/
def atMark (c : Cursor) (sign : Char) : Bool :=
  c.col = 0 && c.peek 0 = sign && c.peek 1 = sign && c.peek 2 = sign && isBlankOrEnd (c.peek 3)

end Cursor

end SuiteRunner.Yaml
