import SuiteRunner.Text.Numeral

/-!
# Arithmetic of the shell language

Main definitions:

* `levels`, the operators with two operands by how tightly they bind, and `apply`;
* `Arithmetic.value?`, the value of an expression.
-/

namespace SuiteRunner.Shell.Arithmetic

/-- The reasons why an expression has no value. -/
inductive Fault where
  | malformed
  /-- Something follows on an expression. -/
  | trailing
  | divisionByZero
  deriving DecidableEq, Repr

/-- The message of a fault. -/
def Fault.message : Fault → String
  | malformed => "arithmetic expression: expecting primary"
  | trailing => "arithmetic expression: expecting EOF"
  | divisionByZero => "arithmetic expression: division by zero"

/-- The number of 64 bits that a number wraps to. -/
def wrap (n : Int) : Int := (n + 9223372036854775808) % 18446744073709551616 - 9223372036854775808

/-- Two to the power of a number. -/
def power (n : Int) : Int := Int.ofNat (Nat.pow 2 n.toNat)

/-- The number of a condition. -/
def truth (b : Bool) : Int := if b then 1 else 0

/-- The operators with two operands.  Those of later groups bind more tightly; in a group, longer ones come first. -/
def levels : List (List String) := [
  ["||"], ["&&"], ["|"], ["^"], ["&"], ["==", "!="], ["<=", ">=", "<", ">"], ["<<", ">>"], ["+", "-"], ["*", "/", "%"]]

/-- The value of an operator. -/
def apply (op : String) (a b : Int) : Except Fault Int :=
  match op with
  | "||" => .ok (truth (a ≠ 0 || b ≠ 0))
  | "&&" => .ok (truth (a ≠ 0 && b ≠ 0))
  | "|" => .ok (wrap ((wrap a).toInt64 ||| (wrap b).toInt64).toInt)
  | "^" => .ok (wrap ((wrap a).toInt64 ^^^ (wrap b).toInt64).toInt)
  | "&" => .ok (wrap ((wrap a).toInt64 &&& (wrap b).toInt64).toInt)
  | "==" => .ok (truth (a = b))
  | "!=" => .ok (truth (a ≠ b))
  | "<=" => .ok (truth (a ≤ b))
  | ">=" => .ok (truth (b ≤ a))
  | "<" => .ok (truth (a < b))
  | ">" => .ok (truth (b < a))
  | "<<" => .ok (wrap (a * power (b % 64)))
  | ">>" => .ok (a / power (b % 64))
  | "+" => .ok (wrap (a + b))
  | "-" => .ok (wrap (a - b))
  | "*" => .ok (wrap (a * b))
  | "/" => if b = 0 then .error .divisionByZero else .ok (wrap (Int.tdiv a b))
  | "%" => if b = 0 then .error .divisionByZero else .ok (Int.tmod a b)
  | _ => .error .malformed

/-- The text without blanks at its front. -/
def skip (s : List Char) : List Char := s.dropWhile Char.isWhitespace

/-- Holds for operators that are half of a longer one with another meaning. -/
def isHalf (op : String) : Bool := op = "|" || op = "&" || op = "<" || op = ">"

/-- The operator of a group at the front of a text, and the text after it. -/
def operator? (ops : List String) (s : List Char) : Option (String × List Char) :=
  ops.findSome? fun op =>
    let rest := s.drop op.length
    let doubled := isHalf op && rest.take 1 = op.toList
    if s.take op.length = op.toList && !doubled then some (op, rest) else none

/-- A number at the front of a text. -/
def numeral? (s : List Char) : Option (Int × List Char) :=
  let (base, s) : Nat × List Char :=
    match s with
    | '0' :: 'x' :: rest | '0' :: 'X' :: rest => (16, rest)
    | '0' :: c :: _ => if c.isDigit then (8, s) else (10, s)
    | s => (10, s)
  let ds := s.takeWhile fun c => (Numeral.digit? base c).isSome
  (Numeral.digits? base ds).map fun n => ((n : Int), s.drop ds.length)

mutual

/-- Reads an operand: a number, a variable, a sign with an operand, or an expression in brackets. -/
def operand (variableOf : String → String) : Nat → List Char → Except Fault (Int × List Char)
  | 0, _ => .error .malformed
  | fuel + 1, s =>
    match skip s with
    | '(' :: rest => do
      let (n, rest) ← expression variableOf fuel levels rest
      match skip rest with
      | ')' :: rest => return (n, rest)
      | _ => throw .malformed
    | '-' :: rest => (operand variableOf fuel rest).map fun (n, rest) => (wrap (-n), rest)
    | '+' :: rest => operand variableOf fuel rest
    | '!' :: rest => (operand variableOf fuel rest).map fun (n, rest) => (truth (n = 0), rest)
    | '~' :: rest => (operand variableOf fuel rest).map fun (n, rest) => (-n - 1, rest)
    | c :: rest =>
      if c.isDigit then
        match numeral? (c :: rest) with
        | some r => .ok r
        | none => .error .malformed
      else if c.isAlpha || c = '_' then
        let isName (c : Char) : Bool := c.isAlphanum || c = '_'
        let name := String.ofList ((c :: rest).takeWhile isName)
        let value := (variableOf name).toList
        let negative := value.head? = some '-'
        let n := ((numeral? (if negative then value.drop 1 else value)).map (·.1)).getD 0
        .ok (if negative then -n else n, (c :: rest).dropWhile isName)
      else .error .malformed
    | [] => .error .malformed

/-- Reads operands that are joined by operators of the groups. -/
def expression (variableOf : String → String) : Nat → List (List String) → List Char → Except Fault (Int × List Char)
  | 0, _, _ => .error .malformed
  | fuel + 1, [], s => operand variableOf fuel s
  | fuel + 1, ops :: tighter, s => do
    let (first, rest) ← expression variableOf fuel tighter s
    joined variableOf fuel ops tighter first rest

/-- Reads what is joined to an operand by operators of one group. -/
def joined (variableOf : String → String) : Nat → List String → List (List String) → Int → List Char →
    Except Fault (Int × List Char)
  | 0, _, _, _, _ => .error .malformed
  | fuel + 1, ops, tighter, first, s =>
    match operator? ops (skip s) with
    | none => .ok (first, s)
    | some (op, rest) => do
      let (second, rest) ← expression variableOf fuel tighter rest
      joined variableOf fuel ops tighter (← apply op first second) rest

end

/-- The value of an expression in which variables have values. -/
def value? (variableOf : String → String) (s : String) : Except Fault Int :=
  if s.toList.all Char.isWhitespace then .ok 0
  else do
    let (n, rest) ← expression variableOf (16 * s.length + 64) levels s.toList
    if (skip rest).isEmpty then return n else throw .trailing

end SuiteRunner.Shell.Arithmetic
