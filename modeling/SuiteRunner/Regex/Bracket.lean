import SuiteRunner.Regex.Primitive

/-!
# Classes in brackets

A class in brackets is a union of characters, ranges and further classes, joined by operators on sets.  The brackets
that are still open are kept on a stack.  Main definition: `parseClass`.
-/

namespace SuiteRunner.Regex

open SuiteRunner.Unicode

/-- An open bracket, or an operator waiting for its right side. -/
inductive ClassFrame where
  | opened (outer : ClassSet) (span : Span) (negated : Bool)
  | operator (op : SetOperator) (left : ClassSet)

/-- The fault of a class that is not closed: at the innermost open bracket. -/
def unclosedClass {α : Type} (frames : List ClassFrame) : Read α := do
  let span? := frames.findSome? fun f => match f with
    | .opened _ span _ => some span
    | .operator _ _ => none
  fault .classUnclosed (span?.getD (← here))

/-- Adds a set to a union. -/
def ClassSet.add (set item : ClassSet) : ClassSet :=
  match set with
  | .empty => item
  | set => .union set item

/-- Reads the dashes that may open a class; each is a literal. -/
def parseDashes (start : Nat) (set : ClassSet) : Nat → Read ClassSet
  | 0 => return set
  | fuel + 1 => do
    if (← peek) == some '-' then
      let lit : Literal := ⟨← hereChar, '-', false⟩
      if !(← bumpSpace) then fault .classUnclosed ⟨start, start⟩
      parseDashes start (set.add (.literal lit)) fuel
    else return set

/-- Reads an opening bracket with the negation and the literals that may follow it at once. -/
def parseClassOpen : Read (Span × Bool × ClassSet) := do
  let start ← position
  if !(← bumpSpace) then fault .classUnclosed (← spanFrom start)
  let negated := (← peek) == some '^'
  if negated then
    if !(← bumpSpace) then fault .classUnclosed (← spanFrom start)
  let dashes ← parseDashes start .empty (← budget)
  match dashes with
  | .empty =>
    if (← peek) == some ']' then
      let lit : Literal := ⟨← hereChar, ']', false⟩
      if !(← bumpSpace) then fault .classUnclosed (← spanFrom start)
      return (← spanFrom start, negated, .literal lit)
    else return (← spanFrom start, negated, .empty)
  | set => return (← spanFrom start, negated, set)

/-- The named class that starts at a position, with the position after it. -/
def namedClassAt? (text : Array Char) (pos : Nat) : Option (PosixClass × Bool × Nat) := do
  let rest ← Text.stripFront? ['[', ':'] (text.toList.drop pos)
  let (negated, body) := match rest with
    | '^' :: body => (true, body)
    | body => (false, body)
  let (name, after) ← Text.splitAt? [':'] body
  let _ ← Text.stripFront? [']'] after
  let kind ← PosixClass.ofName? (String.ofList name)
  return (kind, negated, pos + 2 + (if negated then 1 else 0) + name.length + 2)

/-- Reads one character or escape inside brackets. -/
def parseClassItem (c : Char) : Read Primitive := do
  if c = '\\' then parseEscape
  else
    let span ← hereChar
    let _ ← bump
    return .literal ⟨span, c, false⟩

/-- Reads one item or range inside brackets. -/
def parseClassRange (frames : List ClassFrame) (c : Char) : Read ClassSet := do
  let first ← parseClassItem c
  skipSpace
  if ← atEnd then unclosedClass frames
  if (← peek) != some '-' || (← peekSpace) == some ']' || (← peekSpace) == some '-' then first.toSet
  else
    if !(← bumpSpace) then unclosedClass frames
    match ← peek with
    | none => unclosedClass frames
    | some c =>
      let last ← parseClassItem c
      let a ← first.toLiteral
      let b ← last.toLiteral
      if b.char < a.char then fault .classRangeInvalid ⟨first.span.start, last.span.stop⟩
      return .range a b

/-- Closes the operator that waits for its right side, if there is one. -/
def closeOperator (frames : List ClassFrame) (right : ClassSet) : List ClassFrame × ClassSet :=
  match frames with
  | .operator op left :: frames => (frames, .binary op left right)
  | frames => (frames, right)

/-- Reads a class in brackets; `set` is the union under way in the innermost one. -/
def parseClassFrom (frames : List ClassFrame) (set : ClassSet) : Nat → Read ClassSet
  | 0 => unclosedClass frames
  | fuel + 1 => do
    skipSpace
    match ← peek with
    | none => unclosedClass frames
    | some '[' =>
      let s ← get
      match if frames.isEmpty then none else namedClassAt? s.text s.pos with
      | some (kind, negated, after) =>
        modify fun s => { s with pos := after }
        parseClassFrom frames (set.add (.posix kind negated)) fuel
      | none =>
        let (span, negated, inner) ← parseClassOpen
        parseClassFrom (.opened set span negated :: frames) inner fuel
    | some ']' =>
      let (frames, whole) := closeOperator frames set
      match frames with
      | .opened outer span negated :: frames =>
        let _ ← bump
        let done : ClassSet := .bracketed (← spanFrom span.start) negated whole
        if frames.isEmpty then return done
        else parseClassFrom frames (outer.add done) fuel
      | _ => unclosedClass frames
    | some c =>
      let next ← peekNext
      let op? : Option SetOperator :=
        if c = '&' && next = some '&' then some .intersection
        else if c = '-' && next = some '-' then some .difference
        else if c = '~' && next = some '~' then some .symmetricDifference
        else none
      match op? with
      | some op =>
        modify fun s => { s with pos := s.pos + 2 }
        let (frames, left) := closeOperator frames set
        parseClassFrom (.operator op left :: frames) .empty fuel
      | none =>
        let item ← parseClassRange frames c
        parseClassFrom frames (set.add item) fuel

/-- Reads a class in brackets; the cursor stands on its opening bracket. -/
def parseClass : Read Ast := do
  let start ← position
  let set ← parseClassFrom [] .empty ((← budget) * 2)
  return .bracketed (← spanFrom start) set

end SuiteRunner.Regex
