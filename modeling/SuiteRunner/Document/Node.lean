import SuiteRunner.Document.Value
import SuiteRunner.Text.Numeral

/-!
# Documents as read

`Node` is a document as a file format gives it.  Some formats say of every scalar which type it has; others leave a
plain scalar to its reader, so that `5` is a number where a number is wanted and a text where a text is wanted.

Main definitions:

* `Node`, and `Node.untyped?`, which gives plain scalars the type that they have by themselves;
* the readers `text?`, `nat?`, `int?`, `bool?`, `option?`, `list?` and `variant?`;
* `Record`, the fields of a node, by name or by position, with `required`, `withDefault` and `optional`.
-/

namespace SuiteRunner

open Numeral

/-- A document as read. -/
inductive Node where
  | null
  | bool (b : Bool)
  | int (n : Int)
  /-- A number that is not whole, or too large. -/
  | float
  | text (s : String)
  /-- A scalar whose type depends on its reader. -/
  | plain (s : String)
  /-- A scalar with a tag, which has a handle and a suffix; `bare` holds if it is written without quotes. -/
  | tagged (handle suffix : String) (bare : Bool) (s : String)
  | list (items : List Node)
  | map (entries : List (Node × Node))
  /-- A reference to a node from inside of it. -/
  | cycle
  deriving Repr, Inhabited

namespace Node

/-! ### Scalars -/

/-- The text of a scalar that may be read as a text. -/
def text? : Node → Option String
  | text s | plain s | tagged _ _ _ s => some s
  | _ => none

/-- Holds for digits that start with a zero and go on: they are no number. -/
def isZeroLed (s : List Char) : Bool :=
  let body := match s with
    | '-' :: rest | '+' :: rest => rest
    | _ => s
  match body with
  | '0' :: c :: rest => (c :: rest).all Unicode.isAsciiDigit
  | _ => false

/-- The base that the front of a number names, and its digits. -/
def basePart? : List Char → Option (Nat × List Char)
  | '0' :: 'x' :: rest => some (16, rest)
  | '0' :: 'o' :: rest => some (8, rest)
  | '0' :: 'b' :: rest => some (2, rest)
  | _ => none

/-- Digits in the base that a plain scalar names.  As in every base a sign may stand before digits. -/
def basedInt? (s : List Char) : Option Int :=
  let body := match s with
    | '+' :: rest => rest
    | _ => s
  match basePart? body with
  | some (base, rest) => (natUpTo? base max64 rest).map Int.ofNat
  | none =>
    match s with
    | '-' :: rest =>
      match basePart? rest with
      | some (base, rest) => intWithin? base (-9223372036854775808) 9223372036854775807 ('-' :: rest)
      | none => none
    | _ => none

/-- The whole number of a plain scalar, of any size. -/
def wholeNumber? (s : List Char) : Option Int :=
  match basedInt? s with
  | some n => some n
  | none =>
    if isZeroLed s then none
    else
      match s with
      | '+' :: rest => (digits? 10 rest).map Int.ofNat
      | '-' :: rest => (digits? 10 rest).map fun n => -(Int.ofNat n)
      | s => (digits? 10 s).map Int.ofNat

/-- Whole numbers of 64 bits, with or without sign. -/
def fits64 (n : Int) : Bool := -9223372036854775808 ≤ n && n ≤ 18446744073709551615

/-- Whole numbers of 128 bits, with or without sign. -/
def fits128 (n : Int) : Bool :=
  -170141183460469231731687303715884105728 ≤ n && n ≤ 340282366920938463463374607431768211455

/-- Holds when the digits and the sign of an exponent are well formed. -/
def isExponent (s : List Char) : Bool :=
  let body := match s with
    | '-' :: rest | '+' :: rest => rest
    | _ => s
  !body.isEmpty && body.all Unicode.isAsciiDigit

/-- Holds for a decimal number, with or without fraction and exponent; digits may be missing on one side of the
point. -/
def isDecimalNumber (s : List Char) : Bool :=
  let body := match s with
    | '-' :: rest | '+' :: rest => rest
    | _ => s
  let whole := body.takeWhile Unicode.isAsciiDigit
  let rest := body.dropWhile Unicode.isAsciiDigit
  let (fraction, rest) := match rest with
    | '.' :: r => (r.takeWhile Unicode.isAsciiDigit, r.dropWhile Unicode.isAsciiDigit)
    | r => ([], r)
  (!whole.isEmpty || !fraction.isEmpty) &&
    (match rest with
    | [] => true
    | e :: r => (e = 'e' || e = 'E') && isExponent r)

/-- Plain scalars for the infinities and for the value that is no number. -/
def isSpecialNumber (s : String) : Bool :=
  [".inf", ".Inf", ".INF", "+.inf", "+.Inf", "+.INF", "-.inf", "-.Inf", "-.INF", ".nan", ".NaN", ".NAN"].contains s

/-- The type that a plain scalar has by itself; `none` when the number is too large to be kept. -/
def ofPlain? (s : String) : Option Node :=
  if s = "~" || s = "null" then some null
  else if s = "true" then some (bool true)
  else if s = "false" then some (bool false)
  else
    match wholeNumber? s.toList with
    | some n => if fits64 n then some (int n) else if fits128 n then none else some float
    | none =>
      if isZeroLed s.toList then some (text s)
      else if isSpecialNumber s || isDecimalNumber s.toList then some float
      else some (text s)

/-- The type that a tagged scalar has; `none` when the tag does not fit. -/
def ofTagged? (handle suffix s : String) : Option Node :=
  if handle = "!!" then
    match suffix with
    | "bool" => if s = "true" then some (bool true) else if s = "false" then some (bool false) else none
    | "int" => (intWithin? 10 (-9223372036854775808) 9223372036854775807 s.toList).map int
    | "float" => if isDecimalNumber s.toList then some float else none
    | "null" => if s = "~" || s = "null" then some null else none
    | _ => some (text s)
  else some (text s)

/-- The scalar with the type that it has by itself. -/
def scalar? : Node → Option Node
  | plain s => ofPlain? s
  | tagged handle suffix _ s => ofTagged? handle suffix s
  | n => some n

/-- A whole number from 0 to `max`. -/
def nat? (max : Nat) (n : Node) : Option Nat := do
  match ← n.scalar? with
  | int v => if 0 ≤ v && v ≤ max then some v.toNat else none
  | _ => none

/-- A whole number from `min` to `max`. -/
def int? (min max : Int) (n : Node) : Option Int := do
  match ← n.scalar? with
  | int v => if min ≤ v && v ≤ max then some v else none
  | _ => none

/-- A truth value. -/
def bool? (n : Node) : Option Bool := do
  match ← n.scalar? with
  | bool b => some b
  | _ => none

/-- Holds for null; fails for a tag of null on something else. -/
def isNull? : Node → Option Bool
  | null => some true
  | plain s => some (s = "~" || s = "null")
  | tagged "!!" "null" true s => if s = "~" || s = "null" then some true else none
  | _ => some false

/-- Null, or what `read` reads. -/
def option? {α : Type} (read : Node → Option α) (n : Node) : Option (Option α) := do
  if ← n.isNull? then return none else return some (← read n)

/-- A list of what `read` reads. -/
def list? {α : Type} (read : Node → Option α) : Node → Option (List α)
  | list items => items.mapM read
  | _ => none

/-! ### Variants -/

/-- One of several named forms: the name of the form, and its content if there is one.  A name by itself has
none; otherwise the node is a map with the name as its only key, or its tag is the name. -/
def variant? (names : List String) : Node → Option (String × Option Node)
  | tagged handle suffix bare s =>
    if handle = "!" && names.contains suffix then some (suffix, some (tagged handle suffix bare s))
    else (names.find? (· == s)).map (·, none)
  | map [(key, content)] => do
    let name ← key.text?
    if names.contains name then some (name, some content) else none
  | n => do
    let s ← n.text?
    (names.find? (· == s)).map (·, none)

/-- A form without content; null may stand for the content. -/
def unitVariant? (names : List String) (n : Node) : Option String := do
  match ← n.variant? names with
  | (name, none) => some name
  | (name, some content) =>
    match ← content.scalar? with
    | null => some name
    | _ => none

/-! ### Untyped reading -/

mutual

/-- The node with the types that its plain scalars have by themselves, as far as `depth` levels reach. -/
def untyped? (depth : Nat) : Node → Option Node
  | list items => if depth = 0 then none else (untypedAll? (depth - 1) items).map list
  | map entries => if depth = 0 then none else (untypedEntries? (depth - 1) entries).map map
  | cycle => none
  | plain s => ofPlain? s
  | tagged handle suffix _ s => ofTagged? handle suffix s
  | null => some null
  | bool b => some (bool b)
  | int n => some (int n)
  | float => some float
  | text s => some (text s)

/-- All nodes of a list, untyped. -/
def untypedAll? (depth : Nat) : List Node → Option (List Node)
  | [] => some []
  | n :: ns => do return (← untyped? depth n) :: (← untypedAll? depth ns)

/-- All entries of a map, untyped. -/
def untypedEntries? (depth : Nat) : List (Node × Node) → Option (List (Node × Node))
  | [] => some []
  | (k, v) :: rest => do return (← untyped? depth k, ← untyped? depth v) :: (← untypedEntries? depth rest)

end

/-- How deep lists and maps may nest. -/
def depthLimit : Nat := 128

end Node

/-! ### Records -/

/-- The fields of a node: by name, or by position in the order of their names. -/
inductive Record where
  | named (fields : List (String × Node))
  | positional (names : List String) (items : List Node)

namespace Record

/-- The fields of a map with texts as keys. -/
def fieldsOf? : List (Node × Node) → Option (List (String × Node))
  | [] => some []
  | (k, v) :: rest => do return (← k.text?, v) :: (← fieldsOf? rest)

/-- Holds when none of the names occurs twice among the fields. -/
def isUnambiguous (names : List String) (fields : List (String × Node)) : Bool :=
  names.all fun n => (fields.filter fun f => f.1 == n).length ≤ 1

/-- The fields of a node that has the fields `names`; other fields do not count. -/
def ofNode? (names : List String) : Node → Option Record
  | .map entries => do
    let fields ← fieldsOf? entries
    if isUnambiguous names fields then some (named fields) else none
  | .list items => if items.length ≤ names.length then some (positional names items) else none
  | _ => none

/-- The field of a name. -/
def field? : Record → String → Option Node
  | named fields, name => fields.lookup name
  | positional names items, name => (names.idxOf? name).bind fun i => items[i]?

/-- A field that has to be there. -/
def required {α : Type} (r : Record) (name : String) (read : Node → Option α) : Option α :=
  (r.field? name).bind read

/-- A field with a value of its own where it is missing. -/
def withDefault {α : Type} (r : Record) (name : String) (value : α) (read : Node → Option α) : Option α :=
  match r.field? name with
  | none => some value
  | some n => read n

/-- A field that may be missing or null. -/
def optional {α : Type} (r : Record) (name : String) (read : Node → Option α) : Option (Option α) :=
  r.withDefault name none (Node.option? read)

/-- A field that may be null, and may be missing where fields have names. -/
def nullable {α : Type} (r : Record) (name : String) (read : Node → Option α) : Option (Option α) :=
  match r, r.field? name with
  | named _, none => some none
  | positional _ _, none => none
  | _, some n => Node.option? read n

end Record

end SuiteRunner
