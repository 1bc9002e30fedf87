import SuiteRunner.Document.Node

/-!
# Reading JSON

A strict reader: no comments, no trailing commas, no control characters in texts, and escaped surrogates only in
pairs.

Main definitions:

* `value?`, a value at the front of a text, and `read?`, a text that is one value.
-/

namespace SuiteRunner.Json

open Unicode

/-- White space between the signs. -/
def skipSpace (s : List Char) : List Char :=
  s.dropWhile fun c => c = ' ' || c = '\n' || c = '\r' || c = '\t'

/-- Four hexadecimal digits. -/
def hex4? : List Char → Option (Nat × List Char)
  | a :: b :: c :: d :: rest => (Numeral.digits? 16 [a, b, c, d]).map (·, rest)
  | _ => none

/-- The character of a one-letter escape. -/
def shortEscape? : Char → Option Char
  | '"' => some '"'
  | '\\' => some '\\'
  | '/' => some '/'
  | 'b' => some '\x08'
  | 'f' => some '\x0C'
  | 'n' => some '\n'
  | 'r' => some '\r'
  | 't' => some '\t'
  | _ => none

/-- An escaped code point after the letter `u`; a leading surrogate needs a trailing one after it. -/
def unicodeEscape? (s : List Char) : Option (Char × List Char) := do
  let (a, rest) ← hex4? s
  if a < 0xD800 || 0xE000 ≤ a then return (Char.ofNat a, rest)
  if 0xDC00 ≤ a then none
  match rest with
  | '\\' :: 'u' :: rest =>
    let (b, rest) ← hex4? rest
    if 0xDC00 ≤ b && b < 0xE000 then
      return (Char.ofNat (0x10000 + (a - 0xD800) * 1024 + (b - 0xDC00)), rest)
    else none
  | _ => none

/-- The rest of a text after its opening quotation mark; `acc` holds its characters so far, last first. -/
def text? (acc : List Char) : Nat → List Char → Option (String × List Char)
  | 0, _ => none
  | fuel + 1, s =>
    match s with
    | [] => none
    | '"' :: rest => some (String.ofList acc.reverse, rest)
    | '\\' :: 'u' :: rest => do
      let (c, rest) ← unicodeEscape? rest
      text? (c :: acc) fuel rest
    | '\\' :: c :: rest => do
      let e ← shortEscape? c
      text? (e :: acc) fuel rest
    | c :: rest => if c.toNat < 0x20 then none else text? (c :: acc) fuel rest

/-- The digits at the front of a text. -/
def takeDigits (s : List Char) : List Char × List Char := (s.takeWhile isAsciiDigit, s.dropWhile isAsciiDigit)

/-- The part after a point, which has at least one digit: whether there is one, and the rest. -/
def fraction? : List Char → Option (Bool × List Char)
  | '.' :: rest =>
    let (ds, rest) := takeDigits rest
    if ds.isEmpty then none else some (true, rest)
  | s => some (false, s)

/-- The exponent, which has at least one digit: whether there is one, and the rest. -/
def exponent? : List Char → Option (Bool × List Char)
  | e :: rest =>
    if e = 'e' || e = 'E' then
      let rest := match rest with
        | '+' :: r | '-' :: r => r
        | r => r
      let (ds, rest) := takeDigits rest
      if ds.isEmpty then none else some (true, rest)
    else some (false, e :: rest)
  | [] => some (false, [])

/-- A number: whole within 64 bits, or some other one. -/
def number? (s : List Char) : Option (Node × List Char) := do
  let (negative, body) := match s with
    | '-' :: rest => (true, rest)
    | s => (false, s)
  let (ds, rest) := takeDigits body
  let value ← Numeral.digits? 10 ds
  if ds.head? = some '0' && 1 < ds.length then none
  let (hasFraction, rest) ← fraction? rest
  let (hasExponent, rest) ← exponent? rest
  if hasFraction || hasExponent then return (.float, rest)
  if negative then
    if value = 0 || 9223372036854775808 < value then return (.float, rest)
    else return (.int (-(Int.ofNat value)), rest)
  else if value ≤ Numeral.max64 then return (.int value, rest)
  else return (.float, rest)

mutual

/-- A value at the front of a text. -/
def value? : Nat → List Char → Option (Node × List Char)
  | 0, _ => none
  | fuel + 1, s =>
    match skipSpace s with
    | 'n' :: 'u' :: 'l' :: 'l' :: rest => some (.null, rest)
    | 't' :: 'r' :: 'u' :: 'e' :: rest => some (.bool true, rest)
    | 'f' :: 'a' :: 'l' :: 's' :: 'e' :: rest => some (.bool false, rest)
    | '"' :: rest => (text? [] fuel rest).map fun (t, rest) => (.text t, rest)
    | '[' :: rest =>
      match skipSpace rest with
      | ']' :: rest => some (.list [], rest)
      | rest => (items? fuel rest).map fun (vs, rest) => (.list vs, rest)
    | '\x7b' :: rest =>
      match skipSpace rest with
      | '\x7d' :: rest => some (.map [], rest)
      | rest => (members? fuel rest).map fun (ms, rest) => (.map ms, rest)
    | s => number? s

/-- The items of a list up to its closing bracket. -/
def items? : Nat → List Char → Option (List Node × List Char)
  | 0, _ => none
  | fuel + 1, s => do
    let (v, rest) ← value? fuel s
    match skipSpace rest with
    | ']' :: rest => return ([v], rest)
    | ',' :: rest =>
      let (vs, rest) ← items? fuel rest
      return (v :: vs, rest)
    | _ => none

/-- The members of an object up to its closing brace. -/
def members? : Nat → List Char → Option (List (Node × Node) × List Char)
  | 0, _ => none
  | fuel + 1, s => do
    match skipSpace s with
    | '"' :: rest =>
      let (name, rest) ← text? [] fuel rest
      match skipSpace rest with
      | ':' :: rest =>
        let (v, rest) ← value? fuel rest
        match skipSpace rest with
        | '\x7d' :: rest => return ([(.text name, v)], rest)
        | ',' :: rest =>
          let (ms, rest) ← members? fuel rest
          return ((.text name, v) :: ms, rest)
        | _ => none
      | _ => none
    | _ => none

end

/-- The value that a text is. -/
def read? (s : List Char) : Option Node := do
  let (v, rest) ← value? (2 * s.length + 2) s
  if (skipSpace rest).isEmpty then some v else none

end SuiteRunner.Json
