import SuiteRunner.Text.Numeral

/-!
# Binary numbers of 53 bits

Numbers that are not negative, in the precision of IEEE double numbers: 53 bits, and an exponent that is not bounded
here.  Every operation gives the nearest such number, a half to the even one.

Main definitions:

* `Double`, with `Double.ofRatio`, the nearest number to a quotient, and `Double.ofNat`;
* `div` and `mulNat`;
* `bits`, the bits of the IEEE format, and `fixed`, the decimal text with a fixed number of places.
-/

namespace SuiteRunner

open Numeral

/-- The number `mantissa * 2 ^ exponent`; a mantissa that is not zero has 53 bits. -/
structure Double where
  mantissa : Nat
  exponent : Int
  deriving DecidableEq, Repr

namespace Double

/-- The least mantissa of 53 bits. -/
def unit : Nat := 4503599627370496

/-- The number zero. -/
def zero : Double := ⟨0, 0⟩

/-- The quotient `num / den / 2 ^ e`, as a quotient of whole numbers. -/
def scale (num den : Nat) (e : Int) : Nat × Nat := (num * Nat.pow 2 (-e).toNat, den * Nat.pow 2 e.toNat)

/-- The exponent with which a quotient has a mantissa of 53 bits. -/
def exponentOf (num den : Nat) : Int :=
  let e := (num.log2 : Int) - den.log2 - 52
  let (n, d) := scale num den e
  if n < d * unit then e - 1 else e

/-- The nearest number to a quotient. -/
def ofRatio (num den : Nat) : Double :=
  if num = 0 || den = 0 then zero
  else
    let e := exponentOf num den
    let (n, d) := scale num den e
    let m := roundDiv n d
    if m = 2 * unit then ⟨unit, e + 1⟩ else ⟨m, e⟩

/-- The nearest number to a whole number. -/
def ofNat (n : Nat) : Double := ofRatio n 1

/-- The number as a quotient of whole numbers. -/
def ratio (x : Double) : Nat × Nat :=
  (x.mantissa * Nat.pow 2 x.exponent.toNat, Nat.pow 2 (-x.exponent).toNat)

/-- The quotient of two numbers. -/
def div (x y : Double) : Double := ofRatio (x.ratio.1 * y.ratio.2) (x.ratio.2 * y.ratio.1)

/-- The product with a whole number. -/
def mulNat (x : Double) (n : Nat) : Double := ofRatio (x.ratio.1 * n) x.ratio.2

/-- The bits of the IEEE format. -/
def bits (x : Double) : Nat :=
  if x.mantissa = 0 then 0 else (x.exponent + 1075).toNat * unit + (x.mantissa - unit)

/-- The decimal text with a fixed number of places. -/
def fixed (places : Nat) (x : Double) : String := Numeral.fixed places x.ratio.1 x.ratio.2

end Double

end SuiteRunner
