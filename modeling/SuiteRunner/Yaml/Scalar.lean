import SuiteRunner.Yaml.Cursor

/-!
# Scalars of YAML

The three ways to write a scalar: block scalars after `|` or `>`, quoted scalars, and plain scalars.  Each is read
from a cursor; a reader gives nothing where the text is malformed.

Main definitions:

* `Folding`, the blanks and line breaks that wait for the next character;
* `block?`, `quoted?` and `plain?`.
-/

namespace SuiteRunner.Yaml

/-- Reads a line break. -/
def readBreak (c : Cursor) : Cursor := c.skipLine

/-! ### Folding of lines -/

/-- What stands between two words of a quoted or plain scalar: blanks on the line, or line breaks, the first one
apart.  `folded` holds once a line break has been seen. -/
structure Folding where
  blanks : List Char
  firstBreak : Bool
  moreBreaks : Nat
  folded : Bool

namespace Folding

/-- Nothing. -/
def none : Folding := ⟨[], false, 0, false⟩

/-- Adds a blank. -/
def addBlank (f : Folding) (c : Char) : Folding :=
  if f.folded then f else { f with blanks := f.blanks ++ [c] }

/-- Adds a line break. -/
def addBreak (f : Folding) : Folding :=
  if f.folded then { f with moreBreaks := f.moreBreaks + 1 }
  else { f with blanks := [], firstBreak := true, folded := true }

/-- The characters that stand for it: one line break is a space, and more of them are the line breaks after the
first. -/
def text (f : Folding) : List Char :=
  if f.folded then
    if f.firstBreak && f.moreBreaks = 0 then [' '] else List.replicate f.moreBreaks '\n'
  else f.blanks

end Folding

/-! ### Block scalars -/

/-- Skips indentation and collects line breaks; `indent` is zero as long as it is not known.  Gives the number of
line breaks and the greatest column reached; fails at a tab in the indentation. -/
def blockBreaks? (indent : Nat) : Nat → Nat → Nat → Cursor → Option (Nat × Nat × Cursor)
  | 0, _, _, _ => none
  | fuel + 1, breaks, deepest, c =>
    let spaces := (c.rest.takeWhile (· = ' ')).length
    let wanted := if indent = 0 then spaces else min spaces (indent - c.col)
    let c := c.skipN wanted
    let deepest := max deepest c.col
    if (indent = 0 || c.col < indent) && c.head = '\t' then none
    else if isBreak c.head then blockBreaks? indent fuel (breaks + 1) deepest (readBreak c)
    else some (breaks, deepest, c)

/-- Reads the lines of a block scalar.  `text` holds what was read, `lineBreak` whether a line break waits, `breaks`
the number of those after it, and `blankLed` whether the line before started with a blank. -/
def blockLines? (literal : Bool) (indent : Nat) :
    Nat → List Char → Bool → Nat → Bool → Cursor → Option (List Char × Bool × Nat × Cursor)
  | 0, _, _, _, _, _ => none
  | fuel + 1, text, lineBreak, breaks, blankLed, c =>
    if c.col = indent && !isEnd c.head then
      let blank := isBlank c.head
      let joint :=
        if !literal && lineBreak && !blankLed && !blank then if breaks = 0 then [' '] else []
        else if lineBreak then ['\n'] else []
      let (line, c) := c.span (!isBreakOrEnd ·)
      let text := text ++ joint ++ List.replicate breaks '\n' ++ line
      if isEnd c.head then some (text, false, 0, c)
      else
        match blockBreaks? indent (c.rest.length + 1) 0 0 (readBreak c) with
        | none => none
        | some (breaks, _, c) => blockLines? literal indent fuel text true breaks blank c
    else some (text, lineBreak, breaks, c)

/-- Reads the two signs that may follow the indicator: how to chomp, and how much to indent. -/
def blockHeader? (c : Cursor) : Option (Option Bool × Nat × Cursor) :=
  let chomp? (c : Cursor) : Option Bool :=
    if c.head = '+' then some true else if c.head = '-' then some false else none
  let digit (c : Cursor) : Nat := c.head.toNat - '0'.toNat
  match chomp? c with
  | some keep =>
    let c := c.skip
    if Unicode.isAsciiDigit c.head then
      if digit c = 0 then none else some (some keep, digit c, c.skip)
    else some (some keep, 0, c)
  | none =>
    if Unicode.isAsciiDigit c.head then
      if digit c = 0 then none
      else
        let n := digit c
        let c := c.skip
        match chomp? c with
        | some keep => some (some keep, n, c.skip)
        | none => some (none, n, c)
    else some (none, 0, c)

/-- Reads a block scalar; the cursor stands on its indicator, and `outer` is the indentation around it. -/
def block? (literal : Bool) (outer : Int) (c : Cursor) : Option (String × Cursor) := do
  let (keep, increment, c) ← blockHeader? c.skip
  let c := c.skipWhile isBlank
  let c := if c.head = '#' then c.skipWhile (!isBreakOrEnd ·) else c
  if !isBreakOrEnd c.head then none
  let c := c.skipLine
  let given := if increment = 0 then 0 else if 0 ≤ outer then (outer + increment).toNat else increment
  let (breaks, deepest, c) ← blockBreaks? given (c.rest.length + 1) 0 0 c
  let indent := if given = 0 then max (max deepest (outer + 1).toNat) 1 else given
  let (text, lineBreak, breaks, c) ← blockLines? literal indent (c.rest.length + 1) [] false breaks false c
  let tail := if lineBreak && keep != some false then ['\n'] else []
  let more := if keep == some true then List.replicate breaks '\n' else []
  return (String.ofList (text ++ tail ++ more), c)

/-! ### Quoted scalars -/

/-- The character of an escape that has no digits. -/
def escape? : Char → Option Char
  | '0' => some '\x00'
  | 'a' => some '\x07'
  | 'b' => some '\x08'
  | 't' | '\t' => some '\t'
  | 'n' => some '\n'
  | 'v' => some '\x0B'
  | 'f' => some '\x0C'
  | 'r' => some '\r'
  | 'e' => some '\x1B'
  | ' ' => some ' '
  | '"' => some '"'
  | '\'' => some '\''
  | '\\' => some '\\'
  | 'N' => some '\u0085'
  | '_' => some '\u00A0'
  | 'L' => some '\u2028'
  | 'P' => some '\u2029'
  | _ => none

/-- The number of digits after the letter of an escape. -/
def escapeDigits? : Char → Option Nat
  | 'x' => some 2
  | 'u' => some 4
  | 'U' => some 8
  | _ => none

/-- Reads an escape after its backslash. -/
def readEscape? (c : Cursor) : Option (Char × Cursor) :=
  match escape? c.head with
  | some e => if c.rest.isEmpty then none else some (e, c.skip)
  | none =>
    match escapeDigits? c.head with
    | none => none
    | some n =>
      let digits := (c.skip.rest).take n
      if digits.length < n then none
      else
        match Numeral.digits? 16 digits with
        | none => none
        | some v => if v.isValidChar then some (Char.ofNat v, c.skip.skipN n) else none

/-- Reads blanks and line breaks. -/
def readFolding : Nat → Folding → Cursor → Folding × Cursor
  | 0, f, c => (f, c)
  | fuel + 1, f, c =>
    if isBlank c.head then readFolding fuel (f.addBlank c.head) c.skip
    else if isBreak c.head then readFolding fuel f.addBreak (readBreak c)
    else (f, c)

/-- Reads the characters of a quoted scalar up to a blank, a line break, the closing quote or an escaped line break;
the flag holds for the last of these.  `acc` holds the characters so far, last first. -/
def quotedWord? (single : Bool) : Nat → List Char → Cursor → Option (List Char × Bool × Cursor)
  | 0, _, _ => none
  | fuel + 1, acc, c =>
    if isBlankOrEnd c.head then some (acc, false, c)
    else if single && c.head = '\'' then
      if c.peek 1 = '\'' then quotedWord? single fuel ('\'' :: acc) (c.skipN 2) else some (acc, false, c)
    else if !single && c.head = '"' then some (acc, false, c)
    else if !single && c.head = '\\' then
      if isBreak (c.peek 1) then some (acc, true, c.skip.skipLine)
      else
        match readEscape? c.skip with
        | none => none
        | some (e, c) => quotedWord? single fuel (e :: acc) c
    else quotedWord? single fuel (c.head :: acc) c.skip

/-- Reads a quoted scalar after its opening quote; `acc` holds the characters so far, last first. -/
def quotedFrom? (single : Bool) : Nat → List Char → Cursor → Option (String × Cursor)
  | 0, _, _ => none
  | fuel + 1, acc, c =>
    if c.atMark '-' || c.atMark '.' || isEnd c.head then none
    else
      match quotedWord? single (c.rest.length + 1) acc c with
      | none => none
      | some (acc, escaped, c) =>
        if (single && c.head = '\'') || (!single && c.head = '"') then
          some (String.ofList acc.reverse, c.skip)
        else
          let start : Folding := if escaped then { Folding.none with folded := true } else .none
          let (f, c) := readFolding (c.rest.length + 1) start c
          quotedFrom? single fuel (f.text.reverse ++ acc) c

/-- Reads a quoted scalar; the cursor stands on its opening quote. -/
def quoted? (single : Bool) (c : Cursor) : Option (String × Cursor) :=
  quotedFrom? single (c.rest.length + 1) [] c.skip

/-! ### Plain scalars -/

/-- Holds where a plain scalar ends inside a line. -/
def plainStops (inFlow : Bool) (c : Cursor) : Bool :=
  isBlankOrEnd c.head ||
    (c.head = ':' && (isBlankOrEnd (c.peek 1) || (inFlow && isFlowSign (c.peek 1)))) ||
    (inFlow && isFlowSign c.head)

/-- Reads a word of a plain scalar; `acc` holds the characters so far, last first. -/
def plainWord (inFlow : Bool) : Nat → List Char → Cursor → List Char × Cursor
  | 0, acc, c => (acc, c)
  | fuel + 1, acc, c =>
    if plainStops inFlow c then (acc, c) else plainWord inFlow fuel (c.head :: acc) c.skip

/-- Reads the blanks and line breaks after a word; fails at a tab in the indentation. -/
def plainFolding? (indent : Int) : Nat → Folding → Cursor → Option (Folding × Cursor)
  | 0, f, c => some (f, c)
  | fuel + 1, f, c =>
    if isBlank c.head then
      if f.folded && (c.col : Int) < indent && c.head = '\t' then none
      else plainFolding? indent fuel (f.addBlank c.head) c.skip
    else if isBreak c.head then plainFolding? indent fuel f.addBreak (readBreak c)
    else some (f, c)

/-- What a plain scalar comes to after a word: its end, where the flag holds if a line break stands before it, or the
place of its next word.  Both hold the characters so far, last first. -/
inductive PlainStep where
  | ends (acc : List Char) (broken : Bool) (c : Cursor)
  | goesOn (acc : List Char) (f : Folding) (c : Cursor)

/-- Reads what follows a word of a plain scalar. -/
def afterWord? (inFlow : Bool) (indent : Int) (acc : List Char) (f : Folding) (c : Cursor) : Option PlainStep :=
  if !(isBlank c.head || isBreak c.head) then some (.ends acc f.folded c)
  else
    match plainFolding? indent (c.rest.length + 1) f c with
    | none => none
    | some (f, c) =>
      if !inFlow && (c.col : Int) < indent then some (.ends acc f.folded c) else some (.goesOn acc f c)

/-- Reads a word of a plain scalar and what follows it; `f` stands before the word. -/
def plainStep? (inFlow : Bool) (indent : Int) (acc : List Char) (f : Folding) (c : Cursor) : Option PlainStep :=
  if c.atMark '-' || c.atMark '.' || c.head = '#' then some (.ends acc f.folded c)
  else if plainStops inFlow c then afterWord? inFlow indent acc f c
  else
    let (word, c) := plainWord inFlow (c.rest.length + 1) [] c
    afterWord? inFlow indent (word ++ f.text.reverse ++ acc) .none c

/-- Reads a plain scalar; `f` waits for its next word, and `acc` holds the characters so far, last first.  The flag
holds if a line break follows the last word. -/
def plainFrom? (inFlow : Bool) (indent : Int) :
    Nat → List Char → Folding → Cursor → Option (String × Bool × Cursor)
  | 0, _, _, _ => none
  | fuel + 1, acc, f, c =>
    match plainStep? inFlow indent acc f c with
    | none => none
    | some (.ends acc broken c) => some (String.ofList acc.reverse, broken, c)
    | some (.goesOn acc f c) => plainFrom? inFlow indent fuel acc f c

/-- Reads a plain scalar inside the indentation `outer`. -/
def plain? (inFlow : Bool) (outer : Int) (c : Cursor) : Option (String × Bool × Cursor) :=
  plainFrom? inFlow (outer + 1) (c.rest.length + 1) [] .none c

end SuiteRunner.Yaml
