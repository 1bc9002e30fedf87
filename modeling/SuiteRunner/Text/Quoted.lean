import SuiteRunner.Unicode.Property

/-!
# Quoted texts

Texts between quotation marks, as messages for people show them: what cannot be seen is written as a code point.

Main definitions:

* `debugChar` and `debugText`; `debugPath` also escapes single quotes.
-/

namespace SuiteRunner.Text

open SuiteRunner.Unicode

/-- The hexadecimal digits of a number, in lower case. -/
def hexDigits (n : Nat) : List Char := Nat.toDigits 16 n

/-- The categories of characters that cannot be seen, or that change the character before them. -/
def hiddenCategories : List Category := [.cc, .cf, .cs, .co, .cn, .zl, .zp, .zs, .mn, .me]

/-- Holds for a character that cannot be seen by itself. -/
def isHidden (c : Char) : Bool := c != ' ' && hiddenCategories.contains (category c)

/-- A character inside quotation marks. -/
def debugChar (c : Char) : List Char :=
  match c with
  | '\x00' => ['\\', '0']
  | '\t' => ['\\', 't']
  | '\n' => ['\\', 'n']
  | '\r' => ['\\', 'r']
  | '"' => ['\\', '"']
  | '\\' => ['\\', '\\']
  | c => if isHidden c then ['\\', 'u', '\x7b'] ++ hexDigits c.toNat ++ ['\x7d'] else [c]

/-- A text between quotation marks. -/
def debugText (s : String) : String := String.ofList ('"' :: s.toList.flatMap debugChar ++ ['"'])

/-- A path between quotation marks. -/
def debugPath (s : String) : String :=
  String.ofList ('"' :: (s.toList.flatMap fun c => if c = '\'' then ['\\', '\''] else debugChar c) ++ ['"'])

end SuiteRunner.Text
