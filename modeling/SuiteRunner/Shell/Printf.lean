import SuiteRunner.Text.Numeral
import SuiteRunner.Text.Utf8

/-!
# Formatted output

The formats of the tools `echo` and `printf`.

Main definitions:

* `unescape`, a text with its escapes resolved;
* `Format.ofText` and `Format.print`, a format with its conversions.
-/

namespace SuiteRunner.Shell

/-! ### Escapes -/

/-- The byte of an escape that is one character long. -/
def simpleEscape? : Char → Option UInt8
  | 'a' => some 7
  | 'b' => some 8
  | 'f' => some 12
  | 'n' => some 10
  | 'r' => some 13
  | 't' => some 9
  | 'v' => some 11
  | '\\' => some 92
  | _ => none

/-- The byte of up to three octal digits, and the text after them. -/
def octal (s : List Char) : UInt8 × List Char :=
  let ds := (s.take 3).takeWhile fun c => '0' ≤ c && c ≤ '7'
  (((Numeral.digits? 8 ds).getD 0).toUInt8, s.drop ds.length)

/-- A text with its escapes resolved, and whether an escape has ended the output.  With `zeroFirst` an octal escape may
have a zero before its three digits. -/
def unescape (zeroFirst : Bool) : Nat → List Char → Bytes × Bool
  | 0, _ => ([], false)
  | _ + 1, [] => ([], false)
  | fuel + 1, '\\' :: c :: rest =>
    let continueWith (b : Bytes) (rest : List Char) : Bytes × Bool :=
      let (bytes, stopped) := unescape zeroFirst fuel rest
      (b ++ bytes, stopped)
    if c = 'c' then ([], true)
    else
      match simpleEscape? c with
      | some b => continueWith [b] rest
      | none =>
        if '0' ≤ c && c ≤ '7' then
          let skipZero := zeroFirst && c = '0' && rest.head?.any fun d => '0' ≤ d && d ≤ '7'
          let (b, rest) := octal (if skipZero then rest else c :: rest)
          continueWith [b] rest
        else continueWith [92] (c :: rest)
  | fuel + 1, c :: rest =>
    let (bytes, stopped) := unescape zeroFirst fuel rest
    (Utf8.encodeChar c ++ bytes, stopped)

/-! ### Formats -/

/-- A conversion in a format. -/
structure Conversion where
  leftAligned : Bool
  zeroFilled : Bool
  signed : Bool
  spaced : Bool
  alternate : Bool
  width : Nat
  precision : Option Nat
  kind : Char
  deriving DecidableEq, Repr

/-- A piece of a format. -/
inductive FormatPiece where
  | bytes (b : Bytes)
  | conversion (c : Conversion)
  /-- The output ends here. -/
  | stop
  deriving DecidableEq, Repr

/-- A format. -/
abbrev Format := List FormatPiece

namespace Format

/-- A number at the front of a text. -/
def number (s : List Char) : Nat × List Char :=
  let ds := s.takeWhile Char.isDigit
  ((Numeral.digits? 10 ds).getD 0, s.drop ds.length)

/-- Reads a conversion after its percent sign. -/
def readConversion (s : List Char) : Conversion × List Char :=
  let flags := s.takeWhile fun c => "-0+ #".contains c
  let (width, s) := number (s.drop flags.length)
  let (precision, s) : Option Nat × List Char :=
    match s with
    | '.' :: rest =>
      let (n, rest) := number rest
      (some n, rest)
    | s => (none, s)
  (⟨flags.contains '-', flags.contains '0', flags.contains '+', flags.contains ' ', flags.contains '#', width,
    precision, s.head?.getD ' '⟩, s.drop 1)

/-- The pieces of a format. -/
def read : Nat → List Char → Format
  | 0, _ => []
  | _ + 1, [] => []
  | fuel + 1, '%' :: '%' :: rest => .bytes [37] :: read fuel rest
  | fuel + 1, '%' :: rest =>
    let (c, rest) := readConversion rest
    .conversion c :: read fuel rest
  | fuel + 1, '\\' :: c :: rest =>
    if c = 'c' then [.stop]
    else
      match simpleEscape? c with
      | some b => .bytes [b] :: read fuel rest
      | none =>
        if '0' ≤ c && c ≤ '7' then
          let (b, rest) := octal (c :: rest)
          .bytes [b] :: read fuel rest
        else if c = '"' then .bytes [34] :: read fuel rest
        else .bytes [92] :: read fuel (c :: rest)
  | fuel + 1, c :: rest => .bytes (Utf8.encodeChar c) :: read fuel rest

/-- The format of a text. -/
def ofText (s : String) : Format := read (s.length + 1) s.toList

/-- Fills a text up to the width of a conversion. -/
def fill (c : Conversion) (b : Bytes) : Bytes :=
  let blanks := List.replicate (c.width - b.length) 32
  if c.leftAligned then b ++ blanks else blanks ++ b

/-- A number: its sign, its digits, and zeros up to the width or the precision. -/
def numeral (c : Conversion) (sign digits : String) : Bytes :=
  let digits := match c.precision with
    | some p => Numeral.padLeft '0' p digits
    | none =>
      if c.zeroFilled && !c.leftAligned then Numeral.padLeft '0' (c.width - sign.length) digits else digits
  fill c (Utf8.encode (sign ++ digits).toList)

/-- The digits of a number to a base. -/
def digitsIn (base n : Nat) (upper : Bool) : String :=
  let s := String.ofList (Nat.toDigits base n)
  if upper then s.toUpper else s

/-- The number that an argument stands for, and whether all of it is a number. -/
def argument (s : String) : Int × Bool :=
  match s.toList with
  | [] => (0, true)
  | '\'' :: c :: _ | '"' :: c :: _ => (c.toNat, true)
  | cs =>
    let cs := cs.dropWhile Char.isWhitespace
    let negative := cs.head? = some '-'
    let cs := if negative || cs.head? = some '+' then cs.drop 1 else cs
    let (base, cs) : Nat × List Char :=
      match cs with
      | '0' :: 'x' :: rest | '0' :: 'X' :: rest => (16, rest)
      | '0' :: _ :: _ => (8, cs)
      | cs => (10, cs)
    let ds := cs.takeWhile fun c => (Numeral.digit? base c).isSome
    let n : Int := ((Numeral.digits? base ds).getD 0 : Nat)
    (if negative then -n else n, !ds.isEmpty && ds.length = cs.length)

/-- What a conversion prints for an argument: the bytes, whether the output ends, and whether the argument was not a
number where one was needed. -/
def convert (c : Conversion) (arg : String) : Bytes × Bool × Bool :=
  let cut (b : Bytes) : Bytes := match c.precision with
    | some p => b.take p
    | none => b
  let (n, isNumber) := argument arg
  let sign := if n < 0 then "-" else if c.signed then "+" else if c.spaced then " " else ""
  let unsigned : Nat := if n < 0 then (Int.ofNat Numeral.size64 + n).toNat else n.toNat
  match c.kind with
  | 's' => (fill c (cut (Utf8.encode arg.toList)), false, false)
  | 'b' =>
    let (b, stopped) := unescape true (arg.length + 1) arg.toList
    (fill c (cut b), stopped, false)
  | 'c' => (fill c ((Utf8.encode arg.toList).take 1), false, false)
  | 'd' | 'i' => (numeral c sign (toString n.natAbs), false, !isNumber)
  | 'u' => (numeral c "" (toString unsigned), false, !isNumber)
  | 'o' => (numeral c (if c.alternate && unsigned ≠ 0 then "0" else "") (digitsIn 8 unsigned false), false, !isNumber)
  | 'x' => (numeral c (if c.alternate && unsigned ≠ 0 then "0x" else "") (digitsIn 16 unsigned false), false, !isNumber)
  | 'X' => (numeral c (if c.alternate && unsigned ≠ 0 then "0X" else "") (digitsIn 16 unsigned true), false, !isNumber)
  | _ => ([], true, true)

/-- What a format has printed. -/
structure Printed where
  bytes : Bytes
  /-- The arguments that are left. -/
  rest : List String
  stopped : Bool
  /-- The arguments that were not numbers. -/
  wrong : List String
  deriving DecidableEq, Repr

/-- Prints the pieces of a format with arguments; missing arguments are empty. -/
def once : Format → List String → Printed
  | [], args => ⟨[], args, false, []⟩
  | .bytes b :: pieces, args =>
    let p := once pieces args
    { p with bytes := b ++ p.bytes }
  | .stop :: _, args => ⟨[], args, true, []⟩
  | .conversion c :: pieces, args =>
    let arg := args.head?.getD ""
    let (b, stopped, bad) := convert c arg
    let wrong := if bad then [arg] else []
    if stopped then ⟨b, args.drop 1, true, wrong⟩
    else
      let p := once pieces (args.drop 1)
      { p with bytes := b ++ p.bytes, wrong := wrong ++ p.wrong }

/-- Holds for formats that take arguments. -/
def takesArguments (f : Format) : Bool := f.any fun
  | .conversion _ => true
  | _ => false

/-- Prints a format as often as its arguments need, but once at least. -/
def printFrom (f : Format) : Nat → List String → Printed
  | 0, args => ⟨[], args, false, []⟩
  | fuel + 1, args =>
    let p := once f args
    if p.stopped || p.rest.isEmpty || !f.takesArguments then p
    else
      let q := printFrom f fuel p.rest
      { q with bytes := p.bytes ++ q.bytes, wrong := p.wrong ++ q.wrong }

/-- Prints a format with arguments. -/
def print (f : Format) (args : List String) : Printed := f.printFrom (args.length + 1) args

end Format

end SuiteRunner.Shell
