import SuiteRunner.Regex.Cursor

/-!
# Single characters of an expression

What stands for one character or one set of characters: characters that stand for themselves, escapes, the dot and the
assertions.  Main definitions: `Primitive`, `parseEscape` and `parsePrimitive`.
-/

namespace SuiteRunner.Regex

open SuiteRunner.Unicode

/-- Characters with a meaning of their own. -/
def isMeta (c : Char) : Bool := "\\.+*?()|[]\x7b\x7d^$#&-~".toList.contains c

/-- Characters that a backslash may stand before although it changes nothing. -/
def isEscapable (c : Char) : Bool :=
  isMeta c || (c.toNat < 0x80 && !isAsciiLetter c && !isAsciiDigit c && c ≠ '<' && c ≠ '>')

/-- Hexadecimal digits. -/
def isHex (c : Char) : Bool := (Numeral.digit? 16 c).isSome

/-- The character of a code point, unless it is out of range or a surrogate. -/
def charOf? (n : Nat) : Option Char := if h : n.isValidChar then some (Char.ofNatAux n h) else none

/-- Reads `count` hexadecimal digits. -/
def hexDigits (first : Bool) : Nat → Read (List Char)
  | 0 => return []
  | count + 1 => do
    if !first then
      if !(← bumpSpace) then fault .escapeUnexpectedEnd (← here)
    match ← peek with
    | some c =>
      if !isHex c then fault .escapeHexInvalidDigit (← hereChar)
      return c :: (← hexDigits false count)
    | none => fault .escapeUnexpectedEnd (← here)

/-- Reads hexadecimal digits up to a closing brace. -/
def hexUntilBrace : Nat → Read (List Char)
  | 0 => return []
  | fuel + 1 => do
    if !(← bumpSpace) then return []
    match ← peek with
    | some '\x7d' => return []
    | some c =>
      if !isHex c then fault .escapeHexInvalidDigit (← hereChar)
      return c :: (← hexUntilBrace fuel)
    | none => return []

/-- Reads an escaped code point; the cursor stands on its letter, and `start` is the place of the backslash. -/
def parseHex (start : Nat) : Read Literal := do
  let kind ← peek
  if !(← bumpSpace) then fault .escapeUnexpectedEnd (← here)
  if (← peek) == some '\x7b' then
    let brace ← position
    let digits ← hexUntilBrace (← budget)
    if ← atEnd then fault .escapeUnexpectedEnd (← spanFrom brace)
    let stop ← position
    let _ ← bumpSpace
    if digits.isEmpty then fault .escapeHexEmpty (← spanFrom brace)
    match (Numeral.digits? 16 digits).bind charOf? with
    | none => fault .escapeHexInvalid ⟨brace + 1, stop⟩
    | some c => return ⟨← spanFrom start, c, false⟩
  else
    let first ← position
    let count := if kind = some 'x' then 2 else if kind = some 'u' then 4 else 8
    let digits ← hexDigits true count
    let _ ← bumpSpace
    match (Numeral.digits? 16 digits).bind charOf? with
    | none => fault .escapeHexInvalid (← spanFrom first)
    | some c => return ⟨← spanFrom start, c, kind == some 'x'⟩

/-- Reads the name of a property up to a closing brace. -/
def nameUntilBrace : Nat → Read (List Char)
  | 0 => return []
  | fuel + 1 => do
    if !(← bumpSpace) then return []
    match ← peek with
    | some '\x7d' => return []
    | some c => return c :: (← nameUntilBrace fuel)
    | none => return []

/-- The query that a property name between braces makes. -/
def queryOfName (name : List Char) : PropertyQuery :=
  match Text.splitAt? ['!', '='] name with
  | some (n, v) => .valued true (String.ofList n) (String.ofList v)
  | none =>
    match Text.splitAt? [':'] name with
    | some (n, v) => .valued false (String.ofList n) (String.ofList v)
    | none =>
      match Text.splitAt? ['='] name with
      | some (n, v) => .valued false (String.ofList n) (String.ofList v)
      | none => .named (String.ofList name)

/-- Reads a property class; the cursor stands on its `p` or `P`. -/
def parseProperty (start : Nat) : Read (Span × PropertyQuery × Bool) := do
  let negated := (← peek) == some 'P'
  if !(← bumpSpace) then fault .escapeUnexpectedEnd (← here)
  match ← peek with
  | some '\x7b' =>
    let name ← nameUntilBrace (← budget)
    if ← atEnd then fault .escapeUnexpectedEnd (← here)
    let _ ← bump
    return (← spanFrom start, queryOfName name, negated)
  | some c =>
    if c = '\\' then fault .propertyClassInvalid (← hereChar)
    let _ ← bumpSpace
    return (← spanFrom start, .letter c, negated)
  | none => fault .escapeUnexpectedEnd (← here)

/-- What a single escape or character stands for. -/
inductive Primitive where
  | literal (lit : Literal)
  | dot (span : Span)
  | assertion (span : Span) (kind : Assertion)
  | perl (span : Span) (kind : PerlClass) (negated : Bool)
  | property (span : Span) (query : PropertyQuery) (negated : Bool)

namespace Primitive

/-- The expression of a primitive. -/
def toAst : Primitive → Ast
  | literal lit => .literal lit
  | dot span => .dot span
  | assertion _ kind => .assertion kind
  | perl span kind negated => .perl span kind negated
  | property span query negated => .property span query negated

/-- The place of a primitive. -/
def span : Primitive → Span
  | literal lit => lit.span
  | dot s | assertion s _ | perl s _ _ | property s _ _ => s

/-- The set of a primitive inside brackets. -/
def toSet : Primitive → Read ClassSet
  | literal lit => return .literal lit
  | perl span kind negated => return .perl span kind negated
  | property span query negated => return .property span query negated
  | p => fault .classEscapeInvalid p.span

/-- The literal of a primitive that bounds a range. -/
def toLiteral : Primitive → Read Literal
  | literal lit => return lit
  | p => fault .classRangeLiteral p.span

end Primitive

/-- Characters of the name of a special word boundary. -/
def isBoundaryChar (c : Char) : Bool := isAsciiLetter c || c = '-'

/-- Reads the name in braces after a word boundary, if one starts here; `start` is the place of the backslash. -/
def parseBoundaryName (start : Nat) : Read (Option Assertion) := do
  let brace ← position
  if !(← bumpSpace) then fault .wordBoundaryUnexpectedEnd (← spanFrom start)
  let contents ← position
  if !((← peek).any isBoundaryChar) then
    modify fun s => { s with pos := brace }
    return none
  let name ← takeChars isBoundaryChar bumpSpace (← budget)
  if (← peek) != some '\x7d' then fault .wordBoundaryUnclosed (← spanFrom brace)
  let stop ← position
  let _ ← bump
  match String.ofList name with
  | "start" => return some .wordStart
  | "end" => return some .wordEnd
  | "start-half" => return some .wordStartHalf
  | "end-half" => return some .wordEndHalf
  | _ => fault .wordBoundaryUnrecognized ⟨contents, stop⟩

/-- The character of a one-letter escape. -/
def letterEscape? : Char → Option Char
  | 'a' => some '\x07'
  | 'f' => some '\x0C'
  | 't' => some '\t'
  | 'n' => some '\n'
  | 'r' => some '\r'
  | 'v' => some '\x0B'
  | _ => none

/-- The class of a letter after a backslash. -/
def perlEscape? : Char → Option (PerlClass × Bool)
  | 'd' => some (.digit, false)
  | 'D' => some (.digit, true)
  | 's' => some (.space, false)
  | 'S' => some (.space, true)
  | 'w' => some (.word, false)
  | 'W' => some (.word, true)
  | _ => none

/-- Reads what a backslash starts. -/
def parseEscape : Read Primitive := do
  let start ← position
  if !(← bump) then fault .escapeUnexpectedEnd (← spanFrom start)
  match ← peek with
  | none => fault .escapeUnexpectedEnd (← spanFrom start)
  | some c =>
    if isAsciiDigit c then fault .backreference ⟨start, (← position) + 1⟩
    if c = 'x' || c = 'u' || c = 'U' then return .literal (← parseHex start)
    if c = 'p' || c = 'P' then
      let (span, query, negated) ← parseProperty start
      return .property span query negated
    let _ ← bump
    let span ← spanFrom start
    match perlEscape? c with
    | some (kind, negated) => return .perl span kind negated
    | none =>
      if isEscapable c then return .literal ⟨span, c, false⟩
      match letterEscape? c with
      | some e => return .literal ⟨span, e, false⟩
      | none =>
        match c with
        | 'A' => return .assertion span .textStart
        | 'z' => return .assertion span .textEnd
        | 'b' =>
          if (← peek) == some '\x7b' then
            match ← parseBoundaryName start with
            | some kind => return .assertion (← spanFrom start) kind
            | none => return .assertion span .wordBoundary
          else return .assertion span .wordBoundary
        | 'B' => return .assertion span .notWordBoundary
        | '<' => return .assertion span .wordStart
        | '>' => return .assertion span .wordEnd
        | _ => fault .escapeUnrecognized span

/-- Reads one character or escape outside brackets. -/
def parsePrimitive (c : Char) : Read Primitive := do
  let span ← hereChar
  match c with
  | '\\' => parseEscape
  | '.' => let _ ← bump; return .dot span
  | '^' => let _ ← bump; return .assertion span .lineStart
  | '$' => let _ ← bump; return .assertion span .lineEnd
  | c => let _ ← bump; return .literal ⟨span, c, false⟩

end SuiteRunner.Regex
