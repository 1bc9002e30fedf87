import SuiteRunner.Regex.Parser
import SuiteRunner.Regex.CharClass

/-!
# Patterns

What a regular expression means once its flags have taken effect: classes are sets of characters, and every
repetition says whether it prefers more or fewer rounds.

Main definitions:

* `Pattern` and `Pattern.isNullable`;
* `Look`, a condition on the characters around a place, and `Look.holds`;
* `Pattern.ofText`, which reads an expression.
-/

namespace SuiteRunner.Regex

open SuiteRunner.Unicode

/-- A condition on a place of the text. -/
inductive Look where
  | textStart
  | textEnd
  | lineStart (crlf : Bool)
  | lineEnd (crlf : Bool)
  | boundary (unicode negated : Bool)
  | wordStart (unicode : Bool)
  | wordEnd (unicode : Bool)
  | wordStartHalf (unicode : Bool)
  | wordEndHalf (unicode : Bool)
  deriving DecidableEq, Repr, Inhabited

namespace Look

/-- Word characters, of all scripts or of ASCII alone. -/
def wordChar (unicode : Bool) (c : Char) : Bool :=
  if unicode then isWord c else isAsciiLetter c || isAsciiDigit c || c = '_'

/-- Holds between the characters `before` and `after`; either is missing at an end of the text. -/
def holds (before after : Option Char) : Look → Bool
  | textStart => before.isNone
  | textEnd => after.isNone
  | lineStart false => before.isNone || before == some '\n'
  | lineStart true =>
    before.isNone || before == some '\n' || (before == some '\r' && after != some '\n')
  | lineEnd false => after.isNone || after == some '\n'
  | lineEnd true =>
    after.isNone || after == some '\r' || (after == some '\n' && before != some '\r')
  | boundary unicode negated => (before.any (wordChar unicode) != after.any (wordChar unicode)) != negated
  | wordStart unicode => !before.any (wordChar unicode) && after.any (wordChar unicode)
  | wordEnd unicode => before.any (wordChar unicode) && !after.any (wordChar unicode)
  | wordStartHalf unicode => !before.any (wordChar unicode)
  | wordEndHalf unicode => !after.any (wordChar unicode)

end Look

/-- What a regular expression matches, with its preferences: earlier alternatives first, and in a repetition
more rounds first if it is greedy. -/
inductive Pattern where
  | empty
  | char (set : CharClass)
  | look (l : Look)
  | seq (first second : Pattern)
  | alt (first second : Pattern)
  | repeated (min : Nat) (max : Option Nat) (greedy : Bool) (item : Pattern)
  | captured (item : Pattern)
  deriving Repr, Inhabited

namespace Pattern

/-- Holds when the pattern can match the empty text. -/
def isNullable : Pattern → Bool
  | empty => true
  | char _ => false
  | look _ => true
  | seq a b => a.isNullable && b.isNullable
  | alt a b => a.isNullable || b.isNullable
  | repeated min _ _ item => min == 0 || item.isNullable
  | captured item => item.isNullable

/-- How much room the compiled pattern takes, as a rough count of bytes. -/
def weight : Pattern → Nat
  | empty => 32
  | char set => set.weight
  | look _ => 32
  | seq a b => a.weight + b.weight
  | alt a b => a.weight + b.weight + 32
  | repeated min max _ item =>
    let rounds := match max with
      | none => min + 1
      | some m => m
    rounds * (item.weight + 32)
  | captured item => item.weight + 64

/-- The greatest weight that is accepted. -/
def weightLimit : Nat := 10485760

end Pattern

/-! ### Flags take effect -/

/-- The flags in force. -/
structure Flags where
  ignoreCase : Bool
  multiLine : Bool
  dotAll : Bool
  swapGreed : Bool
  unicode : Bool
  crlf : Bool

namespace Flags

/-- The flags at the start of an expression. -/
def initial : Flags := ⟨false, false, false, false, true, false⟩

/-- The flags after one change. -/
def change (f : Flags) : FlagChange → Flags
  | (.ignoreCase, on) => { f with ignoreCase := on }
  | (.multiLine, on) => { f with multiLine := on }
  | (.dotAll, on) => { f with dotAll := on }
  | (.swapGreed, on) => { f with swapGreed := on }
  | (.unicode, on) => { f with unicode := on }
  | (.crlf, on) => { f with crlf := on }
  | (.verbose, _) => f

/-- The set closed under a change of case, if case is ignored. -/
def fold (f : Flags) (s : CharClass) : CharClass :=
  if !f.ignoreCase then s else if f.unicode then .foldCase s else .foldAscii s

end Flags

/-- The ranges of the classes written `[:name:]`. -/
def PosixClass.ranges : PosixClass → List (Char × Char)
  | alnum => [('0', '9'), ('A', 'Z'), ('a', 'z')]
  | alpha => [('A', 'Z'), ('a', 'z')]
  | ascii => [('\x00', '\x7F')]
  | blank => [('\t', '\t'), (' ', ' ')]
  | cntrl => [('\x00', '\x1F'), ('\x7F', '\x7F')]
  | digit => [('0', '9')]
  | graph => [('!', '~')]
  | lower => [('a', 'z')]
  | print => [(' ', '~')]
  | punct => [('!', '/'), (':', '@'), ('[', Char.ofNat 96), ('\x7b', '~')]
  | space => [('\t', '\r'), (' ', ' ')]
  | upper => [('A', 'Z')]
  | word => [('0', '9'), ('A', 'Z'), ('_', '_'), ('a', 'z')]
  | xdigit => [('0', '9'), ('A', 'F'), ('a', 'f')]

/-- The set of `\d`, `\s` or `\w`. -/
def PerlClass.set (unicode : Bool) : PerlClass → CharClass
  | digit => if unicode then .decimal else .ofRanges PosixClass.digit.ranges
  | space => if unicode then .white else .ofRanges PosixClass.space.ranges
  | word => if unicode then .word else .ofRanges PosixClass.word.ranges

/-- Ends in a fault at a span. -/
def refuse {α : Type} (kind : FaultKind) (span : Span) : Except Fault α := .error (.at kind span none)

/-- Refuses a set that reaches beyond ASCII where Unicode is off. -/
def checkBytes (f : Flags) (span : Span) (s : CharClass) : Except Fault CharClass :=
  if !f.unicode && !s.hasNoHighByte then refuse .invalidUtf8 span else .ok s

/-- The character of a literal inside brackets. -/
def classChar (f : Flags) (lit : Literal) : Except Fault Char :=
  if f.unicode || lit.char.toNat < 0x80 then .ok lit.char
  else if lit.byte then refuse .invalidUtf8 lit.span
  else refuse .unicodeNotAllowed lit.span

/-- The set of a property class. -/
def propertyClass (f : Flags) (span : Span) (query : PropertyQuery) (negated : Bool) : Except Fault CharClass := do
  if !f.unicode then refuse .unicodeNotAllowed span
  let (set?, negated) ← match query with
    | .letter c => pure (namedClass? (String.singleton c), negated)
    | .named name => pure (namedClass? name, negated)
    | .valued differs name value =>
      match valuedClass? name value with
      | none => refuse .propertyNotFound span
      | some none => refuse .propertyValueNotFound span
      | some (some s) => pure (some s, negated != differs)
  match set? with
  | none => refuse .propertyNotFound span
  | some s => return (f.fold s).complIf negated

/-- The set that stands between square brackets. -/
def ClassSet.toClass (f : Flags) : ClassSet → Except Fault CharClass
  | empty => .ok .none
  | literal lit => do return .single (← classChar f lit)
  | range a b => do return .range (← classChar f a) (← classChar f b)
  | perl span kind negated => checkBytes f span ((kind.set f.unicode).complIf negated)
  | posix kind negated => .ok ((f.fold (.ofRanges kind.ranges)).complIf negated)
  | property span query negated => propertyClass f span query negated
  | union l r => do return .union (← l.toClass f) (← r.toClass f)
  | binary op l r => do
    let a := f.fold (← l.toClass f)
    let b := f.fold (← r.toClass f)
    return match op with
      | .intersection => .inter a b
      | .difference => .diff a b
      | .symmetricDifference => .symmDiff a b
  | bracketed span negated s => do checkBytes f span ((f.fold (← s.toClass f)).complIf negated)

/-- The condition of an assertion. -/
def Assertion.toLook (f : Flags) : Assertion → Look
  | lineStart => if f.multiLine then .lineStart f.crlf else .textStart
  | lineEnd => if f.multiLine then .lineEnd f.crlf else .textEnd
  | textStart => .textStart
  | textEnd => .textEnd
  | wordBoundary => .boundary f.unicode false
  | notWordBoundary => .boundary f.unicode true
  | wordStart => .wordStart f.unicode
  | wordEnd => .wordEnd f.unicode
  | wordStartHalf => .wordStartHalf f.unicode
  | wordEndHalf => .wordEndHalf f.unicode

/-- The pattern of a single character. -/
def Literal.toPattern (f : Flags) (lit : Literal) : Except Fault Pattern :=
  if f.unicode || lit.char.toNat < 0x80 then .ok (.char (f.fold (.single lit.char)))
  else if lit.byte then refuse .invalidUtf8 lit.span
  else refuse .unicodeNotAllowed lit.span

/-- The set of the dot. -/
def dotClass (f : Flags) (span : Span) : Except Fault CharClass :=
  if !f.unicode then refuse .invalidUtf8 span
  else if f.dotAll then .ok .any
  else if f.crlf then .ok (.compl (.union (.single '\n') (.single '\r')))
  else .ok (.compl (.single '\n'))

mutual

/-- The pattern of an expression under the flags in force, and the flags after it. -/
def Ast.toPattern (f : Flags) : Ast → Except Fault (Pattern × Flags)
  | .empty => .ok (.empty, f)
  | .flags changes => .ok (.empty, changes.foldl Flags.change f)
  | .literal lit => do return (← lit.toPattern f, f)
  | .dot span => do return (.char (← dotClass f span), f)
  | .assertion kind => .ok (.look (kind.toLook f), f)
  | .perl span kind negated => do
    return (.char (← checkBytes f span ((kind.set f.unicode).complIf negated)), f)
  | .property span query negated => do return (.char (← propertyClass f span query negated), f)
  | .bracketed _ set => do return (.char (← set.toClass f), f)
  | .repetition min max greedy item => do
    let (p, f) ← item.toPattern f
    return (.repeated min max (greedy != f.swapGreed) p, f)
  | .group changes item => do
    let (p, _) ← item.toPattern (changes.foldl Flags.change f)
    return (.captured p, f)
  | .alternation items => Ast.toAlternatives f items
  | .sequence items => Ast.toSequence f items

/-- The alternatives, in their order of preference. -/
def Ast.toAlternatives (f : Flags) : List Ast → Except Fault (Pattern × Flags)
  | [] => .ok (.empty, f)
  | [item] => item.toPattern f
  | item :: items => do
    let (p, f) ← item.toPattern f
    let (q, f) ← Ast.toAlternatives f items
    return (.alt p q, f)

/-- The expressions one after another. -/
def Ast.toSequence (f : Flags) : List Ast → Except Fault (Pattern × Flags)
  | [] => .ok (.empty, f)
  | [item] => item.toPattern f
  | item :: items => do
    let (p, f) ← item.toPattern f
    let (q, f) ← Ast.toSequence f items
    return (.seq p q, f)

end

/-- The pattern of a regular expression, or what is wrong with it. -/
def Pattern.ofText (text : List Char) : Except Fault Pattern := do
  let ast ← parse text
  let (p, _) ← ast.toPattern Flags.initial
  if Pattern.weightLimit < p.weight then throw .tooLarge
  return p

end SuiteRunner.Regex
