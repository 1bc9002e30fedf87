import SuiteRunner.Unicode.CategoryTable
import SuiteRunner.Unicode.PropertyTable
import SuiteRunner.Unicode.ScriptTable
import SuiteRunner.Unicode.FoldTable

/-!
# Properties of characters

White space, letters, digits, word characters and case folding, as Unicode defines them.  On ASCII each property
is given by its own short rule, so that statements about ASCII characters need no table.

Main definitions:

* `isWhite`, `isAlphabetic`, `isAlphanumeric`, `isWord`;
* `caseVariants`, the characters that differ from a character only in case.
-/

namespace SuiteRunner.Unicode

/-- The general category of a character. -/
def category (c : Char) : Category :=
  (rangeValue? categoryRanges c.toNat).getD .cn

/-- The four-letter code of the script of a character. -/
def script (c : Char) : String :=
  (rangeValue? scriptRanges c.toNat).getD "Zzzz"

/-- The 25 characters with the property `White_Space`. -/
def isWhite (c : Char) : Bool :=
  let n := c.toNat
  if n < 0x80 then n == 0x20 || (0x09 ≤ n && n ≤ 0x0D)
  else n == 0x85 || n == 0xA0 || n == 0x1680 || (0x2000 ≤ n && n ≤ 0x200A) || n == 0x2028 || n == 0x2029 ||
    n == 0x202F || n == 0x205F || n == 0x3000

/-- Letters `A` to `Z` and `a` to `z`. -/
def isAsciiLetter (c : Char) : Bool :=
  ('A' ≤ c && c ≤ 'Z') || ('a' ≤ c && c ≤ 'z')

/-- Digits `0` to `9`. -/
def isAsciiDigit (c : Char) : Bool := '0' ≤ c && c ≤ '9'

/-- The property `Alphabetic`. -/
def isAlphabetic (c : Char) : Bool :=
  if c.toNat < 0x80 then isAsciiLetter c
  else
    let k := category c
    k.isLetter || k == .nl || (rangeValue? otherAlphabetic c.toNat).isSome

/-- Alphabetic characters and numbers of any kind. -/
def isAlphanumeric (c : Char) : Bool :=
  if c.toNat < 0x80 then isAsciiLetter c || isAsciiDigit c
  else isAlphabetic c || (category c).isNumber

/-- Decimal digits of any script. -/
def isDecimal (c : Char) : Bool :=
  if c.toNat < 0x80 then isAsciiDigit c else category c == .nd

/-- Characters of words: alphabetic characters, marks, decimal digits, connectors and the two joiners. -/
def isWord (c : Char) : Bool :=
  if c.toNat < 0x80 then isAsciiLetter c || isAsciiDigit c || c == '_'
  else
    let k := category c
    isAlphabetic c || k.isMark || k == .nd || k == .pc || c.toNat == 0x200C || c.toNat == 0x200D

/-- The property `Lowercase`. -/
def isLowercase (c : Char) : Bool :=
  category c == .ll || (rangeValue? otherLowercase c.toNat).isSome

/-- The property `Uppercase`. -/
def isUppercase (c : Char) : Bool :=
  category c == .lu || (rangeValue? otherUppercase c.toNat).isSome

namespace FoldRun

/-- The code point that `n` folds to if the run holds it. -/
def fold? (r : FoldRun) (n : Nat) : Option Nat :=
  if r.first ≤ n && n ≤ r.last && (n - r.first) % r.step == 0 then some ((n : Int) + r.shift).toNat else none

/-- The code point of the run that folds to `f`. -/
def preimage? (r : FoldRun) (f : Nat) : Option Nat :=
  let n := (f : Int) - r.shift
  if n < 0 then none
  else if (r.fold? n.toNat).isSome then some n.toNat else none

end FoldRun

/-- The simple case folding of a code point. -/
def foldCase (n : Nat) : Nat :=
  (foldRuns.findSome? fun r => r.fold? n).getD n

/-- The characters with the same case folding as `c`, itself among them. -/
def caseVariants (c : Char) : List Char :=
  let f := foldCase c.toNat
  Char.ofNat f :: (foldRuns.toList.filterMap fun r => r.preimage? f).map Char.ofNat

end SuiteRunner.Unicode
