import SuiteRunner.Text.Line

/-!
# Faults of regular expressions

What can be wrong with a regular expression, where in its text, and how that is reported: the text of the
expression with the place underlined, and one line that says what is wrong there.

Main definitions:

* `Span`, a range of character positions;
* `FaultKind` with `FaultKind.message`;
* `Fault` with `Fault.report`.
-/

namespace SuiteRunner.Regex

/-- The characters from position `start` up to, not including, position `stop`. -/
structure Span where
  start : Nat
  stop : Nat
  deriving DecidableEq, Repr, Inhabited

/-- What is wrong with a regular expression. -/
inductive FaultKind where
  | classEscapeInvalid
  | classRangeInvalid
  | classRangeLiteral
  | classUnclosed
  | decimalEmpty
  | decimalInvalid
  | escapeHexEmpty
  | escapeHexInvalid
  | escapeHexInvalidDigit
  | escapeUnexpectedEnd
  | escapeUnrecognized
  | flagDanglingNegation
  | flagDuplicate
  | flagRepeatedNegation
  | flagUnexpectedEnd
  | flagUnrecognized
  | groupNameDuplicate
  | groupNameEmpty
  | groupNameInvalid
  | groupNameUnexpectedEnd
  | groupUnclosed
  | groupUnopened
  | nestLimitExceeded (limit : Nat)
  | repetitionCountInvalid
  | repetitionCountDecimalEmpty
  | repetitionCountUnclosed
  | repetitionMissing
  | wordBoundaryUnclosed
  | wordBoundaryUnrecognized
  | wordBoundaryUnexpectedEnd
  | propertyClassInvalid
  | backreference
  | lookAround
  | unicodeNotAllowed
  | invalidUtf8
  | propertyNotFound
  | propertyValueNotFound
  deriving DecidableEq, Repr

namespace FaultKind

/-- The text of a kind of fault. -/
def message : FaultKind → String
  | classEscapeInvalid => "invalid escape sequence found in character class"
  | classRangeInvalid => "invalid character class range, the start must be <= the end"
  | classRangeLiteral => "invalid range boundary, must be a literal"
  | classUnclosed => "unclosed character class"
  | decimalEmpty => "decimal literal empty"
  | decimalInvalid => "decimal literal invalid"
  | escapeHexEmpty => "hexadecimal literal empty"
  | escapeHexInvalid => "hexadecimal literal is not a Unicode scalar value"
  | escapeHexInvalidDigit => "invalid hexadecimal digit"
  | escapeUnexpectedEnd => "incomplete escape sequence, reached end of pattern prematurely"
  | escapeUnrecognized => "unrecognized escape sequence"
  | flagDanglingNegation => "dangling flag negation operator"
  | flagDuplicate => "duplicate flag"
  | flagRepeatedNegation => "flag negation operator repeated"
  | flagUnexpectedEnd => "expected flag but got end of regex"
  | flagUnrecognized => "unrecognized flag"
  | groupNameDuplicate => "duplicate capture group name"
  | groupNameEmpty => "empty capture group name"
  | groupNameInvalid => "invalid capture group character"
  | groupNameUnexpectedEnd => "unclosed capture group name"
  | groupUnclosed => "unclosed group"
  | groupUnopened => "unopened group"
  | nestLimitExceeded limit =>
    "exceed the maximum number of nested parentheses/brackets (" ++ toString limit ++ ")"
  | repetitionCountInvalid => "invalid repetition count range, the start must be <= the end"
  | repetitionCountDecimalEmpty => "repetition quantifier expects a valid decimal"
  | repetitionCountUnclosed => "unclosed counted repetition"
  | repetitionMissing => "repetition operator missing expression"
  | wordBoundaryUnclosed =>
    "special word boundary assertion is either unclosed or contains an invalid character"
  | wordBoundaryUnrecognized =>
    "unrecognized special word boundary assertion, valid choices are: start, end, start-half or end-half"
  | wordBoundaryUnexpectedEnd =>
    "found either the beginning of a special word boundary or a bounded repetition on a \\b with an opening " ++
      "brace, but no closing brace"
  | propertyClassInvalid => "invalid Unicode character class"
  | backreference => "backreferences are not supported"
  | lookAround => "look-around, including look-ahead and look-behind, is not supported"
  | unicodeNotAllowed => "Unicode not allowed here"
  | invalidUtf8 => "pattern can match invalid UTF-8"
  | propertyNotFound => "Unicode property not found"
  | propertyValueNotFound => "Unicode property value not found"

end FaultKind

/-- A fault at a place of the expression, with the earlier place that it repeats if there is one; or an
expression that is sound but too large. -/
inductive Fault where
  | at (kind : FaultKind) (span : Span) (earlier : Option Span)
  | tooLarge
  deriving DecidableEq, Repr

namespace Fault

/-! ### Reports -/

/-- The line and the column, both from zero, of a position in a text. -/
def place (text : List Char) (position : Nat) : Nat × Nat :=
  (text.take position).foldl (fun (line, column) c => if c = '\n' then (line + 1, 0) else (line, column + 1)) (0, 0)

/-- Underlines columns: `spans` are ascending pairs of a first column and a width. -/
def underline (spans : List (Nat × Nat)) : String :=
  (spans.foldl (fun acc (column, width) =>
    acc ++ String.ofList (List.replicate (column - acc.length) ' ') ++ String.ofList (List.replicate (max 1 width) '^'))
    "")

/-- The lines of the expression, each with its marks below it; several lines are numbered. -/
def notated (text : List Char) (spans : List Span) : String :=
  let lines := Text.lines text
  let count := (Text.splitLines text).length
  let width := if count ≤ 1 then 0 else (toString count).length
  let label (i : Nat) : String :=
    if width = 0 then "    "
    else
      let n := toString (i + 1)
      String.ofList (List.replicate (width - n.length) ' ') ++ n ++ ": "
  let marks (i : Nat) : List (Nat × Nat) := spans.filterMap fun s =>
    let (l1, c1) := place text s.start
    let (l2, c2) := place text s.stop
    if l1 = i && l2 = i then some (c1, c2 - c1) else none
  String.join (lines.zipIdx.map fun (line, i) =>
    label i ++ String.ofList line ++ "\n" ++
      (match marks i with
      | [] => ""
      | ms => String.ofList (List.replicate (if width = 0 then 4 else width + 2) ' ') ++ underline ms ++ "\n"))

/-- The report of a fault of the expression `text`. -/
def report (text : List Char) : Fault → String
  | tooLarge => "Compiled regex exceeds size limit of 10485760 bytes."
  | .at kind span earlier =>
    let spans := match earlier with
      | none => [span]
      | some e => if e.start ≤ span.start then [e, span] else [span, e]
    let body := notated text spans
    if text.contains '\n' then
      let divider := String.ofList (List.replicate 79 '~') ++ "\n"
      let across := spans.filterMap fun s =>
        let (l1, c1) := place text s.start
        let (l2, c2) := place text s.stop
        if l1 = l2 then none
        else some ("on line " ++ toString (l1 + 1) ++ " (column " ++ toString (c1 + 1) ++ ") through line " ++
          toString (l2 + 1) ++ " (column " ++ toString c2 ++ ")\n")
      "regex parse error:\n" ++ divider ++ body ++ divider ++ String.join across ++ "error: " ++ kind.message
    else "regex parse error:\n" ++ body ++ "error: " ++ kind.message

end Fault

end SuiteRunner.Regex
