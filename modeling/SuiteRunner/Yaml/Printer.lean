import SuiteRunner.Document.Value
import SuiteRunner.Json.Printer
import SuiteRunner.Unicode.Property

/-!
# Writing YAML

Block style with two spaces per level.  A text stands without quotation marks where it cannot be taken for anything
else.

Main definitions:

* `needsQuotes` and `scalar`;
* `print`, a document with its start mark.
-/

namespace SuiteRunner.Yaml

open Unicode

/-! ### Texts -/

/-- Characters that a bare text must not start with. -/
def leadsMarkup (c : Char) : Bool := ['&', '*', '?', '|', '-', '<', '>', '=', '!', '%', '@', '.', ' '].contains c

/-- Characters that a bare text must not hold. -/
def isMarkup (c : Char) : Bool :=
  [':', '\x7b', '\x7d', '[', ']', ',', '#', '\x60', '"', '\'', '\\'].contains c ||
    (c.toNat < 0x20 && !(0x07 ≤ c.toNat && c.toNat ≤ 0x08) && !(0x0B ≤ c.toNat && c.toNat ≤ 0x0C) &&
      c.toNat != 0x1B)

/-- Words that stand for truth values and for null. -/
def reservedWords : List String := [
  "yes", "Yes", "YES", "no", "No", "NO", "True", "TRUE", "true", "False", "FALSE", "false",
  "on", "On", "ON", "off", "Off", "OFF", "null", "Null", "NULL", "~"]

/-- A letter in lower case. -/
def lowerAscii (c : Char) : Char := if 'A' ≤ c && c ≤ 'Z' then Char.ofNat (c.toNat + 32) else c

/-- The text without a sign in front. -/
def dropSign : List Char → List Char
  | '+' :: s | '-' :: s => s
  | s => s

/-- Holds for the text of a number: digits with or without a point and an exponent, or a name of a special value. -/
def isNumeric (s : List Char) : Bool :=
  let body := dropSign s
  let whole := body.takeWhile isAsciiDigit
  let rest := body.dropWhile isAsciiDigit
  let (fraction, rest) := match rest with
    | '.' :: r => (r.takeWhile isAsciiDigit, r.dropWhile isAsciiDigit)
    | r => ([], r)
  let isTail := match rest with
    | [] => true
    | e :: r => (e = 'e' || e = 'E') && !(dropSign r).isEmpty && (dropSign r).all isAsciiDigit
  ["inf", "infinity", "nan"].contains (String.ofList (body.map lowerAscii)) ||
    ((!whole.isEmpty || !fraction.isEmpty) && isTail)

/-- Holds for a text that is written between quotation marks. -/
def needsQuotes (s : String) : Bool :=
  let cs := s.toList
  cs.isEmpty || cs.head?.any leadsMarkup || cs.getLast? = some ' ' || cs.any isMarkup || reservedWords.contains s ||
    (cs.take 2 = ['0', 'x']) || isNumeric cs

/-- A character between quotation marks. -/
def escapeChar (c : Char) : List Char := if c = '\x7F' then "\\u007f".toList else Json.escapeChar c

/-- A text between quotation marks. -/
def quote (s : String) : String := String.ofList ('"' :: s.toList.flatMap escapeChar ++ ['"'])

/-- A text as a scalar. -/
def scalar (s : String) : String := if needsQuotes s then quote s else s

/-! ### Documents -/

/-- A new line at a level. -/
def newLine (level : Nat) : String := "\n" ++ String.ofList (List.replicate (2 * level) ' ')

mutual

/-- A value whose lines, after the first one, start at a level. -/
def node (level : Nat) : Value → String
  | .null => "~"
  | .bool b => if b then "true" else "false"
  | .int n => toString n
  | .text s => scalar s
  | .list [] => "[]"
  | .list (v :: vs) => items level (v :: vs)
  | .object [] => "\x7b\x7d"
  | .object (m :: ms) => members level (m :: ms)

/-- The items of a list, each after a dash. -/
def items (level : Nat) : List Value → String
  | [] => ""
  | [v] => "- " ++ node (level + 1) v
  | v :: vs => "- " ++ node (level + 1) v ++ newLine level ++ items level vs

/-- The members of an object, each on a line. -/
def members (level : Nat) : List (String × Value) → String
  | [] => ""
  | [(name, v)] => scalar name ++ ":" ++ member level v
  | (name, v) :: ms => scalar name ++ ":" ++ member level v ++ newLine level ++ members level ms

/-- The value of a member: on the same line, or on the lines after it one level deeper. -/
def member (level : Nat) : Value → String
  | .list (v :: vs) => newLine (level + 1) ++ items (level + 1) (v :: vs)
  | .object (m :: ms) => newLine (level + 1) ++ members (level + 1) (m :: ms)
  | .list [] => " []"
  | .object [] => " \x7b\x7d"
  | .null => " ~"
  | .bool b => if b then " true" else " false"
  | .int n => " " ++ toString n
  | .text s => " " ++ scalar s

end

/-- A document with its start mark. -/
def print (v : Value) : String := "---\n" ++ node 0 v ++ "\n"

end SuiteRunner.Yaml
