import SuiteRunner.Text.Line
import SuiteRunner.Text.Numeral
import SuiteRunner.Text.Search

/-!
# Points in time

Points in time with nanoseconds, in the Gregorian calendar without local time.  A leap second is the second before it
with more than a thousand million nanoseconds.

Main definitions:

* `Instant`, with `Instant.le`;
* `Instant.ofText?`, which reads a date, a time of day and an offset, with blanks between them or not;
* `Instant.seconds`, the text down to seconds, and `Instant.text`, the full text.
-/

namespace SuiteRunner

open Numeral

/-! ### The calendar -/

namespace Calendar

/-- Holds for a year with 366 days. -/
def isLeap (year : Int) : Bool := year % 4 = 0 && (year % 100 != 0 || year % 400 = 0)

/-- The number of days of a month. -/
def daysOf (year : Int) (month : Nat) : Nat :=
  match month with
  | 2 => if isLeap year then 29 else 28
  | 4 | 6 | 9 | 11 => 30
  | _ => 31

/-- The number of days from the start of a year to the start of a month. -/
def daysBefore (year : Int) (month : Nat) : Nat :=
  Numeral.total ((List.range (month - 1)).map fun m => daysOf year (m + 1))

/-- The number of days from 1 January of the year 1 to 1 January of a year. -/
def daysToYear (year : Int) : Int :=
  let y := year - 1
  y * 365 + y / 4 - y / 100 + y / 400

/-- The number of days from 1 January of the year 1 to 1 January 1970. -/
def epochDays : Int := 719162

/-- The number of days from 1 January 1970 to a date. -/
def dayNumber (year : Int) (month day : Nat) : Int :=
  daysToYear year + daysBefore year month + day - 1 - epochDays

/-- The month and the day of the month, by the number of the day in its year, from zero. -/
def monthDay (year : Int) (n : Nat) : Nat × Nat :=
  let month := ((List.range 12).filter fun m => daysBefore year (m + 1) ≤ n).length
  (month, n - daysBefore year month + 1)

/-- The date of a number of days from 1 January 1970. -/
def date (n : Int) : Int × Nat × Nat :=
  let d := n + epochDays
  -- A year has fewer than 366 days on average, so the estimate is never too late and at most one too early.
  let guess := d * 400 / 146097 + 1
  let year := if daysToYear (guess + 1) ≤ d then guess + 1 else if d < daysToYear guess then guess - 1 else guess
  (year, monthDay year (d - daysToYear year).toNat)

end Calendar

/-! ### Instants -/

/-- A point in time: the seconds since the start of 1970, and the nanoseconds after that. -/
structure Instant where
  seconds : Int
  nanos : Nat
  deriving DecidableEq, Repr

namespace Instant

/-- The start of 1970. -/
def epoch : Instant := ⟨0, 0⟩

/-- The order of time. -/
def le (a b : Instant) : Bool := a.seconds < b.seconds || (a.seconds == b.seconds && a.nanos ≤ b.nanos)

/-! ### Reading -/

/-- A number of one to `width` digits at the front of a text. -/
def number? (width : Nat) (s : List Char) : Option (Nat × List Char) :=
  let ds := (s.take width).takeWhile Unicode.isAsciiDigit
  (digits? 10 ds).map (·, s.drop ds.length)

/-- A number after blanks. -/
def field? (width : Nat) (s : List Char) : Option (Nat × List Char) := number? width (Text.trimStart s)

/-- A year; with a sign it may have more than four digits. -/
def year? (s : List Char) : Option (Int × List Char) :=
  match Text.trimStart s with
  | '-' :: rest => (number? rest.length rest).map fun (n, rest) => (-(n : Int), rest)
  | '+' :: rest => (number? rest.length rest).map fun (n, rest) => ((n : Int), rest)
  | s => (number? 4 s).map fun (n, rest) => ((n : Int), rest)

/-- A sign that may have blanks in front. -/
def sign? (c : Char) (s : List Char) : Option (List Char) :=
  match Text.trimStart s with
  | d :: rest => if d = c then some rest else none
  | [] => none

/-- The nanoseconds after a point; digits after the ninth do not count. -/
def fraction? (s : List Char) : Option (Nat × List Char) :=
  match s with
  | '.' :: rest => do
    let ds := (rest.take 9).takeWhile Unicode.isAsciiDigit
    let n ← digits? 10 ds
    return (n * Nat.pow 10 (9 - ds.length), rest.dropWhile Unicode.isAsciiDigit)
  | s => some (0, s)

/-- Two digits. -/
def twoDigits? (s : List Char) : Option (Nat × List Char) :=
  match s with
  | a :: b :: rest => (digits? 10 [a, b]).map (·, rest)
  | _ => none

/-- An offset in seconds: a name of the zero offset, or a sign with hours and minutes. -/
def offset? (s : List Char) : Option (Int × List Char) :=
  match s with
  | 'Z' :: rest | 'z' :: rest => some (0, rest)
  | u :: t :: c :: rest =>
    if (u = 'U' || u = 'u') && (t = 'T' || t = 't') && (c = 'C' || c = 'c') then some (0, rest)
    else do
      let negative ← if u = '+' then some false else if u = '-' || u = '\u2212' then some true else none
      let (hours, rest) ← twoDigits? (t :: c :: rest)
      let (minutes, rest) ← twoDigits? (rest.dropWhile fun c => c = ':' || Unicode.isWhite c)
      if 60 ≤ minutes then none
      let n : Int := hours * 3600 + minutes * 60
      return (if negative then -n else n, rest)
  | _ => none

/-- The years that can be told apart. -/
def isYear (year : Int) : Bool := -262143 ≤ year && year ≤ 262142

/-- Reads a point in time. -/
def ofText? (text : String) : Option Instant := do
  let (year, s) ← year? text.toList
  let (month, s) ← field? 2 (← sign? '-' s)
  let (day, s) ← field? 2 (← sign? '-' s)
  let s ← match s with
    | 't' :: rest | 'T' :: rest | ' ' :: rest => some rest
    | _ => none
  let (hour, s) ← field? 2 s
  let (minute, s) ← field? 2 (← sign? ':' s)
  let (second, s) ← field? 2 (← sign? ':' s)
  let (nanos, s) ← fraction? s
  let (offset, s) ← offset? (Text.trimStart s)
  if !(Text.trimStart s).isEmpty then none
  if !isYear year || month < 1 || 12 < month || day < 1 || Calendar.daysOf year month < day then none
  if 24 ≤ hour || 60 ≤ minute || 60 < second || 86400 ≤ offset || offset ≤ -86400 then none
  let leap := second = 60
  let clock : Int := hour * 3600 + minute * 60 + (if leap then 59 else second)
  let seconds := Calendar.dayNumber year month day * 86400 + clock - offset
  if !isYear (Calendar.date (seconds / 86400)).1 then none
  return ⟨seconds, if leap then nanos + 1000000000 else nanos⟩

/-! ### Writing -/

/-- A year: four digits, or a sign and at least four digits. -/
def yearText (year : Int) : String :=
  if 0 ≤ year && year ≤ 9999 then padded 4 year.toNat
  else (if year < 0 then "-" else "+") ++ padded 4 year.natAbs

/-- The year, the month and the day, with a separator between them. -/
def dateText (separator : String) (t : Instant) : String :=
  let (year, month, day) := Calendar.date (t.seconds / 86400)
  yearText year ++ separator ++ padded 2 month ++ separator ++ padded 2 day

/-- The time of day down to seconds, with a separator between its parts. -/
def clockText (separator : String) (t : Instant) : String :=
  let clock := (t.seconds % 86400).toNat
  let second := clock % 60 + t.nanos / 1000000000
  padded 2 (clock / 3600) ++ separator ++ padded 2 (clock / 60 % 60) ++ separator ++ padded 2 second

/-- The date and the time of day, down to seconds. -/
def secondsText (t : Instant) : String := t.dateText "-" ++ "T" ++ t.clockText ":"

/-- The date and the time of day down to microseconds, as they stand in names of files. -/
def compactText (t : Instant) : String :=
  t.dateText "" ++ "_" ++ t.clockText "" ++ "_" ++ padded 6 (t.nanos % 1000000000 / 1000)

/-- The part after the seconds: three, six or nine digits after a point, or nothing. -/
def fractionText (t : Instant) : String :=
  let n := t.nanos % 1000000000
  if n = 0 then ""
  else if n % 1000000 = 0 then "." ++ padded 3 (n / 1000000)
  else if n % 1000 = 0 then "." ++ padded 6 (n / 1000)
  else "." ++ padded 9 n

/-- The full text. -/
def text (t : Instant) : String := t.secondsText ++ t.fractionText ++ "Z"

/-- The full text with the offset as a number. -/
def offsetText (t : Instant) : String := t.secondsText ++ t.fractionText ++ "+00:00"

end Instant

end SuiteRunner
