import SuiteRunner.Unicode.Property

/-!
# Numbers in texts

Reading of whole numbers within bounds, and the writing of quotients with a fixed number of decimals.

Main definitions:

* `digits?`, the value of a text of decimal digits, or of digits in another base;
* `natUpTo?` and `intWithin?`, which also take a sign and refuse what is out of range;
* `total`, the sum of numbers;
* `roundDiv`, a quotient rounded to the nearest whole number, a half to the even one, and `fixed`, which writes
  a fraction with a fixed number of decimals.
-/

namespace SuiteRunner.Numeral

open SuiteRunner.Unicode

/-! ### Reading -/

/-- The value of a digit below `base`, up to base 16. -/
def digit? (base : Nat) (c : Char) : Option Nat :=
  let v :=
    if '0' ≤ c && c ≤ '9' then some (c.toNat - '0'.toNat)
    else if 'a' ≤ c && c ≤ 'f' then some (c.toNat - 'a'.toNat + 10)
    else if 'A' ≤ c && c ≤ 'F' then some (c.toNat - 'A'.toNat + 10)
    else none
  v.filter (· < base)

/-- The value of a text of at least one digit and nothing else. -/
def digits? (base : Nat) (s : List Char) : Option Nat :=
  if s.isEmpty then none
  else s.foldl (fun acc c => acc.bind fun v => (digit? base c).map (v * base + ·)) (some 0)

/-- A whole number from 0 to `max` in some base; a plus sign may stand before the digits. -/
def natUpTo? (base max : Nat) (s : List Char) : Option Nat :=
  let body := match s with
    | '+' :: rest => rest
    | _ => s
  (digits? base body).filter (· ≤ max)

/-- A whole number from `min` to `max` in some base; a sign may stand before the digits. -/
def intWithin? (base : Nat) (min max : Int) (s : List Char) : Option Int :=
  let value? : Option Int := match s with
    | '+' :: rest => (digits? base rest).map Int.ofNat
    | '-' :: rest => (digits? base rest).map fun n => -(Int.ofNat n)
    | _ => (digits? base s).map Int.ofNat
  value?.filter fun v => min ≤ v && v ≤ max

/-- The greatest number of 64 bits. -/
def max64 : Nat := 18446744073709551615

/-- How many numbers of 64 bits there are. -/
def size64 : Nat := 18446744073709551616

/-- The greatest number of 32 bits. -/
def max32 : Nat := 4294967295

/-! ### Sums -/

/-- The sum of numbers. -/
def total (ns : List Nat) : Nat := ns.foldr (· + ·) 0

/-! ### Writing -/

/-- The quotient rounded to the nearest whole number, a half to the even neighbour. -/
def roundDiv (num den : Nat) : Nat :=
  let q := num / den
  let r := num % den
  if 2 * r < den then q
  else if den < 2 * r then q + 1
  else if q % 2 = 0 then q else q + 1

/-- A text with characters put in front of it up to a width. -/
def padLeft (fill : Char) (width : Nat) (s : String) : String :=
  String.ofList (List.replicate (width - s.length) fill) ++ s

/-- A text with spaces put after it up to a width. -/
def padRight (width : Nat) (s : String) : String := s ++ String.ofList (List.replicate (width - s.length) ' ')

/-- The decimal digits of a number, padded on the left with zeros to a width. -/
def padded (width n : Nat) : String := padLeft '0' width (toString n)

/-- The fraction `num / den` with `places` decimals. -/
def fixed (places num den : Nat) : String :=
  let unit := Nat.pow 10 places
  let scaled := roundDiv (num * unit) den
  toString (scaled / unit) ++ "." ++ padded places (scaled % unit)

end SuiteRunner.Numeral
