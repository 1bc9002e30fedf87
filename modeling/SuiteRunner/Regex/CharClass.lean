import SuiteRunner.Unicode.Property

/-!
# Sets of characters

Sets of characters as expressions over ranges and properties; membership is decided by the expression, so a
complement or a difference costs nothing to build.

Main definitions:

* `CharClass` and `CharClass.contains`, with a lemma for each operation;
* `namedClass?` and `valuedClass?`, the sets of property names.
-/

namespace SuiteRunner.Regex

open SuiteRunner.Unicode

/-- A set of characters. -/
inductive CharClass where
  | none
  | range (first last : Char)
  | category (kinds : List Category)
  | script (code : String)
  | white
  | word
  | decimal
  | alphabetic
  | lowercase
  | uppercase
  | math
  | emoji
  | union (left right : CharClass)
  | inter (left right : CharClass)
  | compl (set : CharClass)
  | foldCase (set : CharClass)
  | foldAscii (set : CharClass)
  deriving Repr, Inhabited

namespace CharClass

/-- The ASCII letter of the other case, or the character itself. -/
def otherAsciiCase (c : Char) : Char :=
  if 'a' ≤ c && c ≤ 'z' then Char.ofNat (c.toNat - 32)
  else if 'A' ≤ c && c ≤ 'Z' then Char.ofNat (c.toNat + 32)
  else c

/-- Membership. -/
def contains : CharClass → Char → Bool
  | none, _ => false
  | range a b, c => a ≤ c && c ≤ b
  | category kinds, c => kinds.contains (Unicode.category c)
  | script code, c => Unicode.script c == code
  | white, c => isWhite c
  | word, c => isWord c
  | decimal, c => isDecimal c
  | alphabetic, c => isAlphabetic c
  | lowercase, c => isLowercase c
  | uppercase, c => isUppercase c
  | math, c => Unicode.category c == .sm || (rangeValue? otherMath c.toNat).isSome
  | emoji, c => (rangeValue? emojiRanges c.toNat).isSome
  | union l r, c => l.contains c || r.contains c
  | inter l r, c => l.contains c && r.contains c
  | compl s, c => !s.contains c
  | foldCase s, c => s.contains c || (caseVariants c).any s.contains
  | foldAscii s, c => s.contains c || s.contains (otherAsciiCase c)

/-- The set of one character. -/
def single (c : Char) : CharClass := range c c

/-- All characters. -/
def any : CharClass := compl none

/-- The members of the first set that are not in the second. -/
def diff (l r : CharClass) : CharClass := inter l (compl r)

/-- The members of exactly one of two sets. -/
def symmDiff (l r : CharClass) : CharClass := union (diff l r) (diff r l)

/-- The ranges of ASCII characters. -/
def ofRanges (ranges : List (Char × Char)) : CharClass :=
  ranges.foldr (fun (a, b) s => union (range a b) s) none

/-- The set, or its complement if `negated` holds. -/
def complIf (negated : Bool) (s : CharClass) : CharClass := if negated then compl s else s

/-- Holds when no member has a code point from 128 to 255. -/
def hasNoHighByte (s : CharClass) : Bool :=
  (List.range 128).all fun n => !s.contains (Char.ofNat (n + 128))

theorem contains_single (c x : Char) : (single c).contains x = (decide (c ≤ x) && decide (x ≤ c)) := rfl

theorem contains_any (x : Char) : any.contains x = true := rfl

theorem contains_diff (l r : CharClass) (x : Char) : (diff l r).contains x = (l.contains x && !r.contains x) := rfl

theorem contains_symmDiff (l r : CharClass) (x : Char) :
    (symmDiff l r).contains x = (l.contains x ^^ r.contains x) := by
  simp only [symmDiff, diff, contains]
  cases l.contains x <;> cases r.contains x <;> rfl

/-- How much room the set takes in a compiled expression, as a rough count of bytes. -/
def weight : CharClass → Nat
  | none => 32
  | range _ b => if b.toNat < 0x80 then 32 else 300
  | category _ | word | alphabetic | lowercase | uppercase => 20000
  | script _ => 2000
  | white => 300
  | decimal => 3000
  | math | emoji => 3000
  | union l r => max l.weight r.weight
  | inter l r => max l.weight r.weight
  | compl s => max 400 s.weight
  | foldCase s => s.weight
  | foldAscii s => s.weight

end CharClass

/-! ### Property names -/

/-- A property name without case, spaces, underscores and dashes, and without `is` at its front. -/
def looseName (name : String) : String :=
  let s := name.toList.filterMap fun c =>
    if c = ' ' || c = '_' || c = '-' || isWhite c then none
    else if 'A' ≤ c && c ≤ 'Z' then some (Char.ofNat (c.toNat + 32))
    else if c.toNat < 0x80 then some c
    else none
  match s with
  | ['i', 's', 'c'] => "isc"
  | 'i' :: 's' :: rest => String.ofList rest
  | s => String.ofList s

/-- The four-letter code of a loosely written script name. -/
def scriptOfName? (name : String) : Option String :=
  (scriptNames.find? fun (long, code) => looseName long == name || looseName code == name).map (·.2)

/-- The set of a general category; `any`, `assigned` and `ascii` count as categories too. -/
def categoryClass? (name : String) : Option CharClass :=
  match name with
  | "any" => some .any
  | "assigned" => some (.compl (.category [.cn]))
  | "ascii" => some (.range '\x00' '\x7F')
  | name => (Category.named? name).map .category

/-- The set of a property that characters have or lack. -/
def binaryClass? (name : String) : Option CharClass :=
  match name with
  | "alphabetic" | "alpha" => some .alphabetic
  | "lowercase" | "lower" => some .lowercase
  | "uppercase" | "upper" => some .uppercase
  | "whitespace" | "wspace" | "space" => some .white
  | "math" => some .math
  | "emoji" => some .emoji
  | "cased" => some (.union .lowercase (.union .uppercase (.category [.lt])))
  | "asciihexdigit" | "ahex" => some (.ofRanges [('0', '9'), ('A', 'F'), ('a', 'f')])
  | "hexdigit" | "hex" =>
    some (.ofRanges [('0', '9'), ('A', 'F'), ('a', 'f'), ('\uFF10', '\uFF19'), ('\uFF21', '\uFF26'),
      ('\uFF41', '\uFF46')])
  | _ => none

/-- The set of a property name that stands alone: a property, a general category or a script. -/
def namedClass? (name : String) : Option CharClass :=
  let n := looseName name
  let binary? := if n = "cf" || n = "sc" || n = "lc" then none else binaryClass? n
  binary?.or ((categoryClass? n).or ((scriptOfName? n).map .script))

/-- The set of a property with a value: `none` for an unknown property, `some none` for an unknown value. -/
def valuedClass? (name value : String) : Option (Option CharClass) :=
  let n := looseName name
  let v := looseName value
  if n = "generalcategory" || n = "gc" then some (categoryClass? v)
  else if n = "script" || n = "sc" || n = "scriptextensions" || n = "scx" then some ((scriptOfName? v).map .script)
  else none

end SuiteRunner.Regex
