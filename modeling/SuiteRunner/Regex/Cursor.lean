import SuiteRunner.Regex.Syntax
import SuiteRunner.Text.Numeral
import SuiteRunner.Text.Search

/-!
# The cursor over an expression

A cursor walks over the characters of a regular expression.  Main definitions: `Cursor`, the steps `peek`, `bump` and
`bumpSpace`, and `takeChars`, which takes characters one by one.
-/

namespace SuiteRunner.Regex

open SuiteRunner.Unicode

/-- Where the reader stands: the position, whether white space and comments are skipped, and the group names
read so far with their places. -/
structure Cursor where
  text : Array Char
  pos : Nat
  verbose : Bool
  names : List (List Char × Span)

/-- A step of the reader, which may end in a fault. -/
abbrev Read := StateT Cursor (Except Fault)

/-- Ends in a fault at a span. -/
def fault {α : Type} (kind : FaultKind) (span : Span) : Read α := throw (.at kind span none)

/-- The present position. -/
def position : Read Nat := do return (← get).pos

/-- The character at the present position. -/
def peek : Read (Option Char) := do
  let s ← get
  return s.text[s.pos]?

/-- Holds at the end of the expression. -/
def atEnd : Read Bool := do return (← peek).isNone

/-- The character after the present one. -/
def peekNext : Read (Option Char) := do
  let s ← get
  return s.text[s.pos + 1]?

/-- The empty span at the present position. -/
def here : Read Span := do
  let p ← position
  return ⟨p, p⟩

/-- The span of the present character. -/
def hereChar : Read Span := do
  let p ← position
  return ⟨p, p + 1⟩

/-- The span from `start` to the present position. -/
def spanFrom (start : Nat) : Read Span := do return ⟨start, ← position⟩

/-- Steps over one character; holds if another one follows. -/
def bump : Read Bool := do
  let s ← get
  if s.pos < s.text.size then
    set { s with pos := s.pos + 1 }
    return s.pos + 1 < s.text.size
  else return false

/-- The position after a comment that starts before `pos`. -/
def afterComment (text : Array Char) : Nat → Nat → Nat
  | 0, pos => pos
  | fuel + 1, pos =>
    match text[pos]? with
    | none => pos
    | some c => if c = '\n' then pos + 1 else afterComment text fuel (pos + 1)

/-- The position after white space and comments. -/
def afterSpace (text : Array Char) : Nat → Nat → Nat
  | 0, pos => pos
  | fuel + 1, pos =>
    match text[pos]? with
    | none => pos
    | some c =>
      if isWhite c then afterSpace text fuel (pos + 1)
      else if c = '#' then afterSpace text fuel (afterComment text fuel (pos + 1))
      else pos

/-- Skips white space and comments where the flag `x` is on. -/
def skipSpace : Read Unit := do
  let s ← get
  if s.verbose then set { s with pos := afterSpace s.text (s.text.size + 1) s.pos }

/-- Steps over one character and the space after it; holds if a character follows. -/
def bumpSpace : Read Bool := do
  if ← bump then
    skipSpace
    return !(← atEnd)
  else return false

/-- Steps over `word` if it stands here. -/
def bumpIf (word : String) : Read Bool := do
  let s ← get
  let w := word.toList
  if (s.text.toList.drop s.pos).take w.length == w then
    set { s with pos := s.pos + w.length }
    return true
  else return false

/-- The first character after the present one that is neither white space nor part of a comment. -/
def peekSpace : Read (Option Char) := do
  let s ← get
  if !s.verbose then peekNext
  else
    let rest := s.text.toList.drop (s.pos + 1)
    return scan false rest rest
where
  /-- Scans on; `start` is what a text of white space alone falls back to. -/
  scan (inComment : Bool) (start : List Char) : List Char → Option Char
    | [] => start.head?
    | c :: rest =>
      if isWhite c && !(inComment && c = '\n') then scan inComment start rest
      else if !inComment && c = '#' then scan true start rest
      else if inComment && c = '\n' then scan false start rest
      else some c

/-- The characters from here on that satisfy `p`, up to `fuel` of them; each is stepped over by `step`. -/
def takeChars (p : Char → Bool) (step : Read Bool) : Nat → Read (List Char)
  | 0 => return []
  | fuel + 1 => do
    match ← peek with
    | none => return []
    | some c =>
      if p c then
        let _ ← step
        return c :: (← takeChars p step fuel)
      else return []

/-- A bound on the steps that a loop over the expression makes. -/
def budget : Read Nat := do return (← get).text.size + 1

end SuiteRunner.Regex
