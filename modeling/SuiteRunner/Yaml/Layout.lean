import SuiteRunner.Yaml.Scalar
import SuiteRunner.Yaml.Token

/-!
# The tokens of a text

Cuts a YAML text into tokens.  Block structure shows in the indentation: a line that starts deeper opens a block, one
that starts less deep closes the blocks in between.  A key shows only at the colon after it, so the place where a key
may have started is kept until then.

Main definitions:

* `KeyPlace`, a place where a key may have started;
* `Layout`, what is known after a part of the text, and `Layout.step?`, which reads the next token;
* `tokens?`, all tokens of a text.
-/

namespace SuiteRunner.Yaml

/-! ### Tags, anchors and directives -/

/-- Characters of the suffix of a tag. -/
def isTagChar (c : Char) : Bool :=
  isNameChar c || [';', '/', '?', ':', '@', '&', '=', '+', '$', ',', '.', '!', '~', '*', '\'', '(', ')', '[', ']',
    '%'].contains c

/-- The number of octets that an escaped character has, by the first of them. -/
def octetCount? (octet : Nat) : Option Nat :=
  if octet < 0x80 then some 1
  else if 0xC0 ≤ octet && octet < 0xE0 then some 2
  else if 0xE0 ≤ octet && octet < 0xF0 then some 3
  else if 0xF0 ≤ octet && octet < 0xF8 then some 4
  else none

/-- One escaped octet: a percent sign and two hexadecimal digits. -/
def octet? (c : Cursor) : Option (Nat × Cursor) :=
  if c.head = '%' then (Numeral.digits? 16 [c.peek 1, c.peek 2]).map (·, c.skipN 3) else none

/-- The escaped octets after the first one, joined to one number. -/
def moreOctets? : Nat → Nat → Cursor → Option (Nat × Cursor)
  | 0, code, c => some (code, c)
  | n + 1, code, c => do
    let (octet, c) ← octet? c
    if octet / 64 = 2 then moreOctets? n (code * 256 + octet) c else none

/-- An escaped character of a tag. -/
def tagEscape? (c : Cursor) : Option (Char × Cursor) := do
  let (first, c) ← octet? c
  let n ← octetCount? first
  let (code, c) ← moreOctets? (n - 1) first c
  if code.isValidChar then some (Char.ofNat code, c) else none

/-- The characters of a tag, where `acc` holds those so far, last first. -/
def tagText? : Nat → List Char → Cursor → Option (List Char × Cursor)
  | 0, _, _ => none
  | fuel + 1, acc, c =>
    if !isTagChar c.head then some (acc.reverse, c)
    else if c.head = '%' then
      match tagEscape? c with
      | none => none
      | some (e, c) => tagText? fuel (e :: acc) c
    else tagText? fuel (c.head :: acc) c.skip

/-- The characters of a tag at a cursor. -/
def tagTextAt? (c : Cursor) : Option (List Char × Cursor) := tagText? (c.rest.length + 1) [] c

/-- The handle of a tag: names between exclamation marks, where the second mark may be missing. -/
def tagHandle? (c : Cursor) : Option (List Char × Cursor) :=
  if c.head != '!' then none
  else
    let (name, c) := c.skip.span isNameChar
    if c.head = '!' then some ('!' :: name ++ ['!'], c.skip) else some ('!' :: name, c)

/-- A tag: verbatim, with a handle, or local. -/
def tag? (c : Cursor) : Option (Token × Cursor) := do
  let (t, c) ←
    if c.peek 1 = '<' then do
      let (text, c) ← tagTextAt? (c.skipN 2)
      if text.isEmpty || c.head != '>' then none
      pure (Token.tag "" (String.ofList text), c.skip)
    else do
      let (handle, c) ← tagHandle? c
      let (text, c) ← tagTextAt? c
      if 2 ≤ handle.length && handle.getLast? = some '!' then
        if text.isEmpty then none
        pure (Token.tag (String.ofList handle) (String.ofList text), c)
      else
        let text := handle.drop 1 ++ text
        pure (if text.isEmpty then Token.tag "" "!" else Token.tag "!" (String.ofList text), c)
  if isBlankOrEnd c.head then some (t, c) else none

/-- The name of an anchor or an alias. -/
def anchorName? (c : Cursor) : Option (String × Cursor) :=
  let (name, c) := c.skip.span isNameChar
  if !name.isEmpty && (isBlankOrEnd c.head || ['?', ':', ',', ']', '\x7d', '%', '@', '\x60'].contains c.head) then
    some (String.ofList name, c)
  else none

/-- A number of a version. -/
def versionPart? (c : Cursor) : Option Cursor :=
  let (ds, c) := c.span Unicode.isAsciiDigit
  if 1 ≤ ds.length && ds.length ≤ 9 then some c else none

/-- What follows the name of a directive. -/
def directiveBody? (name : String) (c : Cursor) : Option Cursor := do
  match name with
  | "YAML" =>
    let c ← versionPart? (c.skipWhile isBlank)
    if c.head != '.' then none
    versionPart? c.skip
  | "TAG" =>
    let (handle, c) ← tagHandle? (c.skipWhile isBlank)
    if handle != ['!'] && (handle.length < 2 || handle.getLast? != some '!') then none
    let (text, c) ← tagTextAt? (c.skipWhile isBlank)
    if text.isEmpty || !isBlankOrEnd c.head then none
    return c
  | _ => return c.skipWhile (!isBreakOrEnd ·)

/-- A directive with its line. -/
def directive? (c : Cursor) : Option Cursor := do
  let (name, c) := c.skip.span isNameChar
  if name.isEmpty || !isBlankOrEnd c.head then none
  let c ← directiveBody? (String.ofList name) c
  let c := c.skipWhile isBlank
  let c := if c.head = '#' then c.skipWhile (!isBreakOrEnd ·) else c
  if isBreakOrEnd c.head then some c.skipLine else none

/-! ### Layout -/

/-- A place where a key may have started: the number of tokens before it, and its position. -/
structure KeyPlace where
  number : Nat
  index : Nat
  line : Nat
  col : Nat
  /-- Holds when a key has to start here. -/
  required : Bool

/-- What is known after a part of a text.  The tokens are kept last first; `keys` has a place for every open flow
collection, innermost first, and one for the text around them. -/
structure Layout where
  cursor : Cursor
  tokens : List Token
  count : Nat
  keyAllowed : Bool
  keys : List (Option KeyPlace)
  indent : Int
  indents : List Int
  /-- Where a colon may follow without a blank. -/
  adjacent : Option Nat

namespace Layout

/-- What is known before a text. -/
def start (text : List Char) : Layout := ⟨Cursor.start text, [], 0, true, [none], -1, [], none⟩

/-- How many flow collections are open. -/
def flow (s : Layout) : Nat := s.keys.length - 1

/-- Holds inside of a flow collection. -/
def inFlow (s : Layout) : Bool := 0 < s.flow

/-- How many flow collections may be open. -/
def flowLimit : Nat := 255

/-- Adds a token. -/
def push (s : Layout) (t : Token) : Layout := { s with tokens := t :: s.tokens, count := s.count + 1 }

/-- Adds a token so that `number` tokens stand before it. -/
def insert (s : Layout) (number : Nat) (t : Token) : Layout :=
  let later := s.count - number
  { s with tokens := s.tokens.take later ++ t :: s.tokens.drop later, count := s.count + 1 }

/-- Moves the cursor. -/
def goto (s : Layout) (c : Cursor) : Layout := { s with cursor := c }

/-- Adds a token of `n` characters. -/
def take (s : Layout) (n : Nat) (t : Token) : Layout := (s.push t).goto (s.cursor.skipN n)

/-- Says whether a key may start next. -/
def allowKey (s : Layout) (allowed : Bool) : Layout := { s with keyAllowed := allowed }

/-- Forgets the innermost place of a key; fails when a key has to start there. -/
def dropKey? (s : Layout) : Option Layout :=
  match s.keys with
  | some k :: keys => if k.required then none else some { s with keys := none :: keys }
  | _ => some s

/-- Keeps the cursor as a place where a key may start. -/
def saveKey? (s : Layout) : Option Layout :=
  if s.keyAllowed then do
    let s ← s.dropKey?
    let c := s.cursor
    let place : KeyPlace := ⟨s.count, c.index, c.line, c.col, s.inFlow && s.indent == (c.col : Int)⟩
    return { s with keys := some place :: s.keys.drop 1 }
  else some s

/-- How many characters a key may have. -/
def keyLimit : Nat := 1024

/-- Holds when the place lies too far behind to start a key. -/
def isStale (c : Cursor) (k : KeyPlace) : Bool := k.line < c.line || k.index + keyLimit < c.index

/-- Forgets the places that lie too far behind; fails when a key has to start at one of them. -/
def dropStale? (s : Layout) : Option Layout :=
  let stale (k : Option KeyPlace) : Bool := match k with
    | some k => isStale s.cursor k
    | none => false
  let required (k : Option KeyPlace) : Bool := match k with
    | some k => k.required
    | none => false
  if s.keys.any fun k => stale k && required k then none
  else some { s with keys := s.keys.map fun k => if stale k then none else k }

/-- Opens a block at a column, if that is deeper; its token comes after `number` tokens. -/
def openBlock (s : Layout) (col number : Nat) (t : Token) : Layout :=
  if s.inFlow || (col : Int) ≤ s.indent then s
  else { s with indents := s.indent :: s.indents, indent := col }.insert number t

/-- Closes blocks, at most as many as `indents` holds, until one is no deeper than a column. -/
def closeFrom (s : Layout) (col : Int) : List Int → Layout
  | [] => s
  | outer :: rest =>
    if s.indent ≤ col then s
    else closeFrom { s.push .blockEnd with indent := outer, indents := rest } col rest

/-- Closes the blocks that are deeper than a column. -/
def closeBlocks (s : Layout) (col : Int) : Layout := if s.inFlow then s else s.closeFrom col s.indents

/-- Skips blanks, comments and line breaks. -/
def skipBlanks : Nat → Layout → Layout
  | 0, s => s
  | fuel + 1, s =>
    let c := s.cursor
    if c.head = ' ' || (c.head = '\t' && (s.inFlow || !s.keyAllowed)) then skipBlanks fuel (s.goto c.skip)
    else if isBreak c.head then
      skipBlanks fuel ((s.goto c.skipLine).allowKey (s.keyAllowed || !s.inFlow))
    else if c.head = '#' then skipBlanks fuel (s.goto (c.skipWhile (!isBreakOrEnd ·)))
    else s

/-! ### Steps -/

/-- The end of the text. -/
def finish? (s : Layout) : Option Layout := do
  let s ← (s.closeBlocks (-1)).dropKey?
  return (s.allowKey false).push .streamEnd

/-- A directive. -/
def stepDirective? (s : Layout) : Option Layout := do
  let s ← (s.closeBlocks (-1)).dropKey?
  let c ← directive? s.cursor
  return ((s.allowKey false).push .directive).goto c

/-- A document mark. -/
def stepMark? (s : Layout) (t : Token) : Option Layout := do
  let s ← (s.closeBlocks (-1)).dropKey?
  return (s.allowKey false).take 3 t

/-- The start of a flow collection. -/
def stepOpen? (s : Layout) (t : Token) : Option Layout := do
  let s ← s.saveKey?
  if flowLimit ≤ s.flow then none
  return ({ s with keys := none :: s.keys }.allowKey true).take 1 t

/-- The end of a flow collection. -/
def stepClose? (s : Layout) (t : Token) : Option Layout := do
  let s ← s.dropKey?
  let s := if s.inFlow then { s with keys := s.keys.drop 1 } else s
  return (s.allowKey false).take 1 t

/-- A comma of a flow collection. -/
def stepComma? (s : Layout) : Option Layout := do
  let s ← s.dropKey?
  return (s.allowKey true).take 1 .flowEntry

/-- The dash of a block sequence. -/
def stepEntry? (s : Layout) : Option Layout := do
  if s.inFlow || !s.keyAllowed then none
  let s ← (s.openBlock s.cursor.col s.count .blockSequenceStart).dropKey?
  return (s.allowKey true).take 1 .blockEntry

/-- The question mark before a key. -/
def stepKey? (s : Layout) : Option Layout := do
  if !s.inFlow && !s.keyAllowed then none
  let s ← (s.openBlock s.cursor.col s.count .blockMappingStart).dropKey?
  return (s.allowKey !s.inFlow).take 1 .key

/-- The colon before a value: it shows that a key has started at the place kept. -/
def stepValue? (s : Layout) : Option Layout :=
  match s.keys with
  | some k :: keys =>
    let s := (s.insert k.number .key).openBlock k.col k.number .blockMappingStart
    some (({ s with keys := none :: keys }.allowKey false).take 1 .value)
  | _ =>
    if !s.inFlow && !s.keyAllowed then none
    else
      let s := s.openBlock s.cursor.col s.count .blockMappingStart
      some ((s.allowKey !s.inFlow).take 1 .value)

/-- An anchor, an alias or a tag. -/
def stepProperty? (s : Layout) (read : Cursor → Option (Token × Cursor)) : Option Layout := do
  let s ← s.saveKey?
  let (t, c) ← read s.cursor
  return ((s.allowKey false).push t).goto c

/-- A block scalar. -/
def stepBlock? (s : Layout) (literal : Bool) : Option Layout := do
  let s ← s.saveKey?
  let (text, c) ← block? literal s.indent s.cursor
  return ((s.allowKey true).push (.scalar false text)).goto c

/-- A quoted scalar. -/
def stepQuoted? (s : Layout) (single : Bool) : Option Layout := do
  let s ← s.saveKey?
  let (text, c) ← quoted? single s.cursor
  return { ((s.allowKey false).push (.scalar false text)).goto c with adjacent := some c.index }

/-- A plain scalar. -/
def stepPlain? (s : Layout) : Option Layout := do
  let s ← s.saveKey?
  let (text, broken, c) ← plain? s.inFlow s.indent s.cursor
  return ((s.allowKey broken).push (.scalar true text)).goto c

/-- A token that starts with the next character. -/
def stepSign? (s : Layout) : Option Layout :=
  let next := s.cursor.peek 1
  let named (token : String → Token) : Option Layout :=
    s.stepProperty? fun c => (anchorName? c).map fun (name, c) => (token name, c)
  match s.cursor.head with
  | '[' => s.stepOpen? .flowSequenceStart
  | '\x7b' => s.stepOpen? .flowMappingStart
  | ']' => s.stepClose? .flowSequenceEnd
  | '\x7d' => s.stepClose? .flowMappingEnd
  | ',' => s.stepComma?
  | '-' => if isBlankOrEnd next then s.stepEntry? else s.stepPlain?
  | '?' => if isBlankOrEnd next then s.stepKey? else s.stepPlain?
  | ':' =>
    if isBlankOrEnd next || (s.inFlow && (isFlowSign next || s.adjacent == some s.cursor.index)) then s.stepValue?
    else s.stepPlain?
  | '*' => named .alias
  | '&' => named .anchor
  | '!' => s.stepProperty? tag?
  | '|' => if s.inFlow then s.stepPlain? else s.stepBlock? true
  | '>' => if s.inFlow then s.stepPlain? else s.stepBlock? false
  | '\'' => s.stepQuoted? true
  | '"' => s.stepQuoted? false
  | '%' | '@' | '\x60' => none
  | _ => s.stepPlain?

/-- Reads the next token, with the tokens of the blocks that it opens and closes. -/
def step? (s : Layout) : Option Layout := do
  let s ← (skipBlanks (s.cursor.rest.length + 1) s).dropStale?
  let s := s.closeBlocks s.cursor.col
  let c := s.cursor
  if isEnd c.head then s.finish?
  else if c.col = 0 && c.head = '%' then s.stepDirective?
  else if c.atMark '-' then s.stepMark? .documentStart
  else if c.atMark '.' then s.stepMark? .documentEnd
  else s.stepSign?

/-- Reads tokens up to the end. -/
def run? : Nat → Layout → Option (List Token)
  | 0, _ => none
  | fuel + 1, s => do
    let s ← s.step?
    if s.tokens.head? = some .streamEnd then return s.tokens.reverse else run? fuel s

end Layout

/-- The tokens of a text; fails where the text is malformed. -/
def tokens? (text : List Char) : Option (List Token) := (Layout.start text).run? (text.length + 2)

end SuiteRunner.Yaml
