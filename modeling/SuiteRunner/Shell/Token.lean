import SuiteRunner.Shell.Syntax
import SuiteRunner.Text.Search

/-!
# Tokens of the shell language

Main definitions:

* `Token`, words, operators and line ends;
* `tokens`, the tokens of a script; a fault is a token too, since what stands before it is run;
* `wordOf`, the word that a text stands for inside of double quotes.
-/

namespace SuiteRunner.Shell

/-- The tokens of a script. -/
inductive Token where
  | word (w : Word)
  /-- An operator of lists and groups. -/
  | operator (s : String)
  /-- A redirection; a word follows. -/
  | redirect (descriptor : Nat) (kind : RedirectKind)
  /-- A redirection from a text in the script. -/
  | here (text : Word)
  | lineEnd
  /-- The script ends. -/
  | finish
  /-- What is wrong in the script. -/
  | fault (message : String)
  deriving DecidableEq, Repr

/-- A token on its line. -/
structure Placed where
  line : Nat
  token : Token
  deriving DecidableEq, Repr

/-! ### Characters -/

/-- Holds for characters that separate words. -/
def isGap (c : Char) : Bool := c = ' ' || c = '\t'

/-- Holds for characters that end a word. -/
def endsWord (c : Char) : Bool := isGap c || c = '\n' || "&|;<>()".contains c

/-- Holds for characters that begin a name. -/
def isNameStart (c : Char) : Bool := c.isAlpha || c = '_'

/-- Holds for characters of a name. -/
def isNameChar (c : Char) : Bool := c.isAlphanum || c = '_'

/-- Holds for the names of parameters that are one character long and no letter. -/
def isSpecialParameter (c : Char) : Bool := c.isDigit || "?$#@*!-".contains c

/-! ### Parts of words -/

/-- The text up to a closing character, and the rest after it.  Pairs of `opening` and `closing`, quoted texts and
escaped characters inside of it are left alone; `depth` counts the open pairs. -/
def enclosed? (opening closing : Char) (depth : Nat) (quote : Option Char) : List Char → Option (List Char × List Char)
  | [] => none
  | '\\' :: c :: rest =>
    if quote = some '\'' then
      (enclosed? opening closing depth (if c = '\'' then none else quote) rest).map fun (a, b) => ('\\' :: c :: a, b)
    else (enclosed? opening closing depth quote rest).map fun (a, b) => ('\\' :: c :: a, b)
  | c :: rest =>
    let keep (depth : Nat) (quote : Option Char) :=
      (enclosed? opening closing depth quote rest).map fun (a, b) => (c :: a, b)
    if quote = some c then keep depth none
    else if quote.isSome then keep depth quote
    else if c = '\'' || c = '"' then keep depth (some c)
    else if c = closing then
      match depth with
      | 0 => some ([], rest)
      | n + 1 => keep n quote
    else if c = opening then keep (depth + 1) quote
    else keep depth quote

/-- The text up to a character, and the rest after it. -/
def upTo? (stop : Char) (s : List Char) : Option (List Char × List Char) := Text.splitAt? [stop] s

/-- A name at the front of the text inside of braces, and what follows it. -/
def parameterIn (s : List Char) : String × String :=
  match s with
  | c :: rest =>
    if isNameStart c then (String.ofList (s.takeWhile isNameChar), String.ofList (s.dropWhile isNameChar))
    else if c = '#' && !rest.isEmpty then ("#", String.ofList rest)
    else (String.singleton c, String.ofList rest)
  | [] => ("", "")

/-- What a dollar sign stands for, and the text after it. -/
def dollar? (quoted : Bool) (s : List Char) : Option (Option Piece × List Char) :=
  match s with
  | '(' :: '(' :: rest =>
    match enclosed? '(' ')' 1 none rest with
    | some (inner, rest) => some (some (.arithmetic (String.ofList inner.dropLast) quoted), rest)
    | none => none
  | '(' :: rest => (enclosed? '(' ')' 0 none rest).map fun (inner, rest) =>
      (some (.output (String.ofList inner) quoted), rest)
  | '{' :: rest => (enclosed? '{' '}' 0 none rest).map fun (inner, rest) =>
      let (name, after) := parameterIn inner
      (some (.parameter name after quoted), rest)
  | c :: rest =>
    if isNameStart c then
      some (some (.parameter (String.ofList (s.takeWhile isNameChar)) "" quoted), s.dropWhile isNameChar)
    else if isSpecialParameter c then some (some (.parameter (String.singleton c) "" quoted), rest)
    else some (none, s)
  | [] => some (none, [])

/-- Adds a character to the pieces of a word, the last one first. -/
def addChar (c : Char) (quoted : Bool) : Word → Word
  | .text s q :: rest =>
    if q = quoted then .text (s.push c) q :: rest else .text (String.singleton c) quoted :: .text s q :: rest
  | w => .text (String.singleton c) quoted :: w

/-- Where a word is read. -/
inductive Quotation where
  | none
  | double
  /-- In a text of the script that is no word: quotes mean nothing there. -/
  | document
  deriving DecidableEq, Repr

/-- Reads a word; `pieces` holds what was read of it, the last piece first.  The fuel bounds the number of steps.
Without quotes the word goes up to a separator, inside of quotes up to their end, and in a document up to its end. -/
def readWord : Nat → Quotation → Word → List Char → Except String (Word × List Char)
  | 0, _, _, _ => .error "Unterminated quoted string"
  | _ + 1, .none, pieces, [] => .ok (pieces, [])
  | _ + 1, .document, pieces, [] => .ok (pieces, [])
  | _ + 1, .double, _, [] => .error "Unterminated quoted string"
  | fuel + 1, q, pieces, c :: rest =>
    let quoted : Bool := q ≠ .none
    if c = '\\' then
      match q, rest with
      | _, '\n' :: rest => readWord fuel q pieces rest
      | .none, d :: rest => readWord fuel q (addChar d true pieces) rest
      | _, d :: after =>
        if "$`\\".contains d || (d = '"' && q = .double) then readWord fuel q (addChar d true pieces) after
        else readWord fuel q (addChar '\\' true pieces) rest
      | _, [] => readWord fuel q (addChar '\\' true pieces) []
    else if c = '$' then
      match dollar? quoted rest with
      | Option.none => .error "Missing '\x7d'"
      | some (some piece, rest) => readWord fuel q (piece :: pieces) rest
      | some (Option.none, rest) => readWord fuel q (addChar '$' quoted pieces) rest
    else if c = '`' then
      match upTo? '`' rest with
      | some (inner, rest) => readWord fuel q (.output (String.ofList inner) quoted :: pieces) rest
      | Option.none => .error "EOF in backquote substitution"
    else
      match q with
      | .double =>
        if c = '"' then .ok (pieces, rest) else readWord fuel q (addChar c true pieces) rest
      | .document => readWord fuel q (addChar c true pieces) rest
      | .none =>
        if endsWord c then .ok (pieces, c :: rest)
        else if c = '\'' then
          match upTo? '\'' rest with
          | some (inner, rest) => readWord fuel q (.text (String.ofList inner) true :: pieces) rest
          | Option.none => .error "Unterminated quoted string"
        else if c = '"' then
          match readWord fuel .double (.text "" true :: pieces) rest with
          | .ok (pieces, rest) => readWord fuel q pieces rest
          | .error e => .error e
        else readWord fuel q (addChar c false pieces) rest

/-- The word that a text stands for where quotes mean nothing. -/
def wordOf (s : String) : Word :=
  match readWord (2 * s.length + 1) .document [] s.toList with
  | .ok (w, _) => w.reverse
  | .error _ => [.text s true]

/-! ### Texts in the script -/

/-- The text of a word without its quotes. -/
def plainText : Word → String
  | [] => ""
  | .text s _ :: rest => s ++ plainText rest
  | _ :: rest => plainText rest

/-- The lines of a text up to the one that ends it, and the text after that one. -/
def takeDocument (stop : List Char) (stripTabs : Bool) : Nat → List Char → List Char × List Char
  | 0, s => ([], s)
  | fuel + 1, s =>
    match upTo? '\n' s with
    | none =>
      let l := if stripTabs then s.dropWhile (· = '\t') else s
      if l = stop then ([], []) else (l, [])
    | some (l, rest) =>
      let l := if stripTabs then l.dropWhile (· = '\t') else l
      if l = stop then ([], rest)
      else
        let (text, rest) := takeDocument stop stripTabs fuel rest
        (l ++ '\n' :: text, rest)

/-! ### Tokens -/

/-- The number of line ends in the part of a text that has been read. -/
def linesRead (before after : List Char) : Nat := (before.take (before.length - after.length)).count '\n'

/-- The operator at the front of a text. -/
def operator? : List Char → Option (String × List Char)
  | '&' :: '&' :: rest => some ("&&", rest)
  | '|' :: '|' :: rest => some ("||", rest)
  | ';' :: ';' :: rest => some (";;", rest)
  | '&' :: rest => some ("&", rest)
  | '|' :: rest => some ("|", rest)
  | ';' :: rest => some (";", rest)
  | '(' :: rest => some ("(", rest)
  | ')' :: rest => some (")", rest)
  | _ => none

/-- The redirection at the front of a text.  The text may begin with the number of a descriptor. -/
def redirect? (s : List Char) : Option (Nat × RedirectKind × List Char) :=
  let ds := s.takeWhile Char.isDigit
  let number (default : Nat) : Nat := if ds.isEmpty then default else (String.ofList ds).toNat?.getD default
  match s.drop ds.length with
  | '>' :: '>' :: rest => some (number 1, .append, rest)
  | '>' :: '&' :: rest => some (number 1, .duplicate, rest)
  | '>' :: '|' :: rest => some (number 1, .output, rest)
  | '>' :: rest => some (number 1, .output, rest)
  | '<' :: '<' :: rest => some (number 0, .here, rest)
  | '<' :: '&' :: rest => some (number 0, .duplicate, rest)
  | '<' :: rest => some (number 0, .input, rest)
  | _ => none

/-- A text in the script: the word after its sign, and the token with the lines, which are taken out of the text. -/
def readHere (fuel : Nat) (s : List Char) : Except String (Token × List Char) :=
  let stripTabs := s.head? = some '-'
  let s := (if stripTabs then s.drop 1 else s).dropWhile isGap
  match readWord fuel .none [] s with
  | .error e => .error e
  | .ok (stop, rest) =>
    let ofLine := rest.takeWhile (· ≠ '\n')
    let (text, after) := takeDocument (plainText stop.reverse).toList stripTabs fuel (rest.drop (ofLine.length + 1))
    let isPlain := stop.all fun | .text _ quoted => !quoted | _ => true
    let word := if isPlain then wordOf (String.ofList text) else [.text (String.ofList text) true]
    .ok (.here word, ofLine ++ '\n' :: after)

/-- The tokens of a text on a line.  The fuel bounds the number of steps. -/
def tokensFrom (line : Nat) : Nat → List Char → List Placed
  | 0, _ => [⟨line, .finish⟩]
  | _ + 1, [] => [⟨line, .finish⟩]
  | fuel + 1, c :: rest =>
    let s := c :: rest
    if isGap c then tokensFrom line fuel rest
    else if c = '\n' then ⟨line, .lineEnd⟩ :: tokensFrom (line + 1) fuel rest
    else if c = '#' then tokensFrom line fuel (rest.dropWhile (· ≠ '\n'))
    else if c = '\\' && rest.head? = some '\n' then tokensFrom (line + 1) fuel (rest.drop 1)
    else
      match redirect? s with
      | some (_, .here, rest) =>
        match readHere (2 * s.length + 1) rest with
        | .ok (token, rest) => ⟨line, token⟩ :: tokensFrom line fuel rest
        | .error e => [⟨line, .fault e⟩]
      | some (descriptor, kind, rest) => ⟨line, .redirect descriptor kind⟩ :: tokensFrom line fuel rest
      | none =>
        match operator? s with
        | some (name, rest) => ⟨line, .operator name⟩ :: tokensFrom line fuel rest
        | none =>
          match readWord (2 * s.length + 1) .none [] s with
          | .ok (w, after) => ⟨line, .word w.reverse⟩ :: tokensFrom (line + linesRead s after) fuel after
          | .error e => [⟨line, .fault e⟩]

/-- The tokens of a script. -/
def tokens (script : List Char) : List Placed := tokensFrom 1 (script.length + 1) script

end SuiteRunner.Shell
