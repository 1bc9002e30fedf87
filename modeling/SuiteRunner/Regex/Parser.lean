import SuiteRunner.Regex.Bracket

/-!
# Reading regular expressions

The grammar of regular expressions.  Each construct is read by a function of its own, and the groups that are still
open are kept on a stack, so that the reader makes one step per construct.

Main definition: `parse`, which gives the tree of an expression or its first fault.
-/

namespace SuiteRunner.Regex

open SuiteRunner.Unicode

/-! ### Repetitions -/

/-- Reads a decimal number, with white space around it. -/
def parseDecimal : Read Nat := do
  let n ← budget
  let _ ← takeChars isWhite bump n
  let start ← position
  let digits ← takeChars isAsciiDigit bumpSpace n
  let span ← spanFrom start
  let _ ← takeChars isWhite bumpSpace n
  if digits.isEmpty then fault .repetitionCountDecimalEmpty span
  match Numeral.natUpTo? 10 Numeral.max32 digits with
  | some v => return v
  | none => fault .decimalInvalid span

/-- Takes the expression that a repetition applies to from the end of a sequence. -/
def popItem (items : List Ast) : Read (Ast × List Ast) := do
  match items with
  | [] => fault .repetitionMissing (← here)
  | .empty :: _ | .flags _ :: _ => fault .repetitionMissing (← here)
  | item :: rest => return (item, rest)

/-- Reads a repetition written as one sign; `items` is the sequence so far, last first. -/
def parseSimpleRepetition (items : List Ast) (min : Nat) (max : Option Nat) : Read (List Ast) := do
  let (item, rest) ← popItem items
  let more ← bump
  if more && (← peek) == some '?' then
    let _ ← bump
    return .repetition min max false item :: rest
  else return .repetition min max true item :: rest

/-- The outcome of a step, kept instead of thrown. -/
def attempt {α : Type} (step : Read α) : Read (Except Fault α) := fun s =>
  match step s with
  | .ok (a, s') => .ok (.ok a, s')
  | .error e => .ok (.error e, s)

/-- Reads a repetition with counts in braces; `items` is the sequence so far, last first. -/
def parseCountedRepetition (items : List Ast) : Read (List Ast) := do
  let start ← position
  let (item, rest) ← popItem items
  if !(← bumpSpace) then fault .repetitionCountUnclosed (← spanFrom start)
  let low ← attempt parseDecimal
  match low with
  | .error _ =>
    let n ← budget
    let _ ← takeChars isWhite bump n
    let _ ← takeChars isAsciiDigit bumpSpace n
    let _ ← takeChars isWhite bumpSpace n
  | .ok _ => pure ()
  if ← atEnd then fault .repetitionCountUnclosed (← spanFrom start)
  let (min, max) ←
    if (← peek) == some ',' then
      if !(← bumpSpace) then fault .repetitionCountUnclosed (← spanFrom start)
      let a ← liftM low
      if (← peek) != some '\x7d' then
        let b ← parseDecimal
        pure (a, some b)
      else pure (a, none)
    else
      let a ← liftM low
      pure (a, some a)
  if (← peek) != some '\x7d' then fault .repetitionCountUnclosed (← spanFrom start)
  let more ← bumpSpace
  let lazily := more && (← peek) == some '?'
  if lazily then
    let _ ← bump
  if max.any (· < min) then fault .repetitionCountInvalid (← spanFrom start)
  return .repetition min max (!lazily) item :: rest

/-! ### Groups -/

/-- Characters of a group name; fewer may come first. -/
def isNameChar (first : Bool) (c : Char) : Bool :=
  if first then c = '_' || isAlphabetic c
  else c = '_' || c = '.' || c = '[' || c = ']' || isAlphanumeric c

/-- Reads the characters of a group name up to its closing angle. -/
def nameChars (first : Bool) : Nat → Read (List Char)
  | 0 => return []
  | fuel + 1 => do
    match ← peek with
    | none => return []
    | some c =>
      if c = '>' then return []
      if !isNameChar first c then fault .groupNameInvalid (← hereChar)
      let _ ← bump
      return c :: (← nameChars false fuel)

/-- Reads a group name and notes it. -/
def parseGroupName : Read Unit := do
  if ← atEnd then fault .groupNameUnexpectedEnd (← here)
  let start ← position
  let name ← nameChars true (← budget)
  let span ← spanFrom start
  if ← atEnd then fault .groupNameUnexpectedEnd (← here)
  let _ ← bump
  if name.isEmpty then fault .groupNameEmpty ⟨start, start⟩
  match (← get).names.lookup name with
  | some earlier => throw (.at .groupNameDuplicate span (some earlier))
  | none => modify fun s => { s with names := (name, span) :: s.names }

/-- Reads flags up to the character that ends them; `seen` holds those read, last first, with their places and
`none` for the minus sign. -/
def parseFlagsFrom (seen : List (Option Flag × Span)) : Nat → Read (List (Option Flag × Span))
  | 0 => return seen
  | fuel + 1 => do
    match ← peek with
    | none => fault .flagUnexpectedEnd (← here)
    | some c =>
      if c = ':' || c = ')' then
        match seen with
        | (none, span) :: _ => fault .flagDanglingNegation span
        | _ => return seen
      let span ← hereChar
      let item ←
        if c = '-' then pure none
        else
          match Flag.ofChar? c with
          | some f => pure (some f)
          | none => fault .flagUnrecognized span
      match seen.find? fun s => s.1 == item with
      | some (_, earlier) =>
        throw (.at (if item.isNone then .flagRepeatedNegation else .flagDuplicate) span (some earlier))
      | none =>
        if !(← bump) then fault .flagUnexpectedEnd (← here)
        parseFlagsFrom ((item, span) :: seen) fuel

/-- The changes that flags make: those after a minus sign are turned off. -/
def changesOf (items : List (Option Flag)) : List FlagChange :=
  (items.foldl (fun (on, acc) item =>
    match item with
    | none => (false, acc)
    | some f => (on, acc ++ [(f, on)])) (true, [])).2

/-- An open group, or the alternatives read so far. -/
inductive Frame where
  | group (before : List Ast) (span : Span) (changes : List FlagChange) (verbose : Bool)
  | alternatives (items : List Ast)

/-- Reads what an opening parenthesis starts: flags that hold from here on, or a group. -/
def parseGroupOpen : Read (Ast ⊕ (Span × List FlagChange)) := do
  let span ← hereChar
  let _ ← bump
  skipSpace
  for word in ["?=", "?!", "?<=", "?<!"] do
    if ← bumpIf word then fault .lookAround (← spanFrom span.start)
  let inner ← here
  if (← bumpIf "?P<") then
    parseGroupName
    return .inr (span, [])
  if (← bumpIf "?<") then
    parseGroupName
    return .inr (span, [])
  if (← bumpIf "?") then
    if ← atEnd then fault .groupUnclosed span
    let seen ← parseFlagsFrom [] (← budget)
    let changes := changesOf (seen.reverse.map (·.1))
    let ending ← peek
    let _ ← bump
    if ending == some ')' then
      if seen.isEmpty then fault .repetitionMissing inner
      return .inl (.flags changes)
    else return .inr (span, changes)
  return .inr (span, [])

/-- The group that a closing parenthesis ends: the frames below it, what stood before it, and itself. -/
def closeGroup (frames : List Frame) (items : List Ast) : Read (List Frame × List Ast) := do
  let last := Ast.ofSequence items.reverse
  let close (before : List Ast) (changes : List FlagChange) (verbose : Bool) (frames : List Frame) (body : Ast) :
      Read (List Frame × List Ast) := do
    modify fun s => { s with verbose := verbose }
    let _ ← bump
    return (frames, .group changes body :: before)
  match frames with
  | .group before _ changes verbose :: frames => close before changes verbose frames last
  | .alternatives alts :: .group before _ changes verbose :: frames =>
    close before changes verbose frames (.alternation (alts.reverse ++ [last]))
  | _ => fault .groupUnopened (← hereChar)

/-- The expression that the end of the text completes. -/
def closeAll (frames : List Frame) (items : List Ast) : Read Ast := do
  let last := Ast.ofSequence items.reverse
  match frames with
  | [] => return last
  | .group _ span _ _ :: _ => fault .groupUnclosed span
  | .alternatives alts :: rest =>
    match rest with
    | .group _ span _ _ :: _ => fault .groupUnclosed span
    | _ => return .alternation (alts.reverse ++ [last])

/-- Reads an expression; `items` is the sequence under way, last first. -/
def parseFrom (frames : List Frame) (items : List Ast) : Nat → Read Ast
  | 0 => closeAll frames items
  | fuel + 1 => do
    skipSpace
    match ← peek with
    | none => closeAll frames items
    | some '(' =>
      match ← parseGroupOpen with
      | .inl set =>
        match set with
        | .flags changes =>
          match changeOf? .verbose changes with
          | some v => modify fun s => { s with verbose := v }
          | none => pure ()
        | _ => pure ()
        parseFrom frames (set :: items) fuel
      | .inr (span, changes) =>
        let old := (← get).verbose
        modify fun s => { s with verbose := (changeOf? .verbose changes).getD old }
        parseFrom (.group items span changes old :: frames) [] fuel
    | some ')' =>
      let (frames, items) ← closeGroup frames items
      parseFrom frames items fuel
    | some '|' =>
      let last := Ast.ofSequence items.reverse
      let _ ← bump
      match frames with
      | .alternatives alts :: frames => parseFrom (.alternatives (last :: alts) :: frames) [] fuel
      | frames => parseFrom (.alternatives [last] :: frames) [] fuel
    | some '[' =>
      let set ← parseClass
      parseFrom frames (set :: items) fuel
    | some '?' => parseFrom frames (← parseSimpleRepetition items 0 (some 1)) fuel
    | some '*' => parseFrom frames (← parseSimpleRepetition items 0 none) fuel
    | some '+' => parseFrom frames (← parseSimpleRepetition items 1 none) fuel
    | some '\x7b' => parseFrom frames (← parseCountedRepetition items) fuel
    | some c =>
      let p ← parsePrimitive c
      parseFrom frames (p.toAst :: items) fuel

/-- The greatest depth to which an expression may nest. -/
def nestLimit : Nat := 250

/-- The tree of an expression. -/
def parse (text : List Char) : Except Fault Ast := do
  let (ast, _) ← (parseFrom [] [] (2 * text.length + 2)).run ⟨text.toArray, 0, false, []⟩
  if nestLimit < ast.depth then throw (.at (.nestLimitExceeded nestLimit) ⟨0, text.length⟩ none)
  return ast

end SuiteRunner.Regex
