import SuiteRunner.Shell.Token

/-!
# Reading scripts

A script is read one command line at a time, so that the lines before a mistake are run.

Main definitions:

* `SyntaxFault` with `SyntaxFault.message`;
* `readLine`, the phrase of the next command line, and the tokens after it.
-/

namespace SuiteRunner.Shell

/-- What is wrong with a script, and on which line. -/
structure SyntaxFault where
  line : Nat
  problem : String
  deriving DecidableEq, Repr

/-- The message of a fault. -/
def SyntaxFault.message (f : SyntaxFault) : String := toString f.line ++ ": Syntax error: " ++ f.problem

/-- Something read, and the tokens after it. -/
abbrev Parsed (α : Type) := α × List Placed

/-! ### Tokens -/

/-- The words that belong to the language. -/
def reservedWords : List String :=
  ["if", "then", "elif", "else", "fi", "while", "until", "do", "done", "for", "in", "case", "esac", "!", "\x7b", "\x7d"]

/-- The words that do not begin a command. -/
def closingWords : List String := ["then", "elif", "else", "fi", "do", "done", "esac", "\x7d"]

/-- The text of a token that is a plain word. -/
def plainWord? : List Placed → Option String
  | ⟨_, .word [.text s false]⟩ :: _ => some s
  | _ => none

/-- Holds when the next token is this plain word. -/
def nextIs (s : String) (ts : List Placed) : Bool := plainWord? ts = some s

/-- Holds when the next token is this operator. -/
def nextIsOperator (s : String) : List Placed → Bool
  | ⟨_, .operator t⟩ :: _ => t = s
  | _ => false

/-- The tokens after line ends. -/
def dropLineEnds : List Placed → List Placed
  | ⟨_, .lineEnd⟩ :: rest => dropLineEnds rest
  | ts => ts

/-- The fault of a token that cannot stand where it does. -/
def unexpected (expected : Option String) (ts : List Placed) : SyntaxFault :=
  let wanted := match expected with
    | some w => " (expecting \"" ++ w ++ "\")"
    | none => ""
  match ts with
  | [] => ⟨0, "end of file unexpected" ++ wanted⟩
  | ⟨line, .finish⟩ :: _ => ⟨line, "end of file unexpected" ++ wanted⟩
  | ⟨line, .fault problem⟩ :: _ => ⟨line, problem⟩
  | ⟨line, .lineEnd⟩ :: _ => ⟨line, "newline unexpected" ++ wanted⟩
  | ⟨line, .operator s⟩ :: _ => ⟨line, "\"" ++ s ++ "\" unexpected" ++ wanted⟩
  | ⟨line, .word _⟩ :: _ =>
    match plainWord? ts with
    | some s =>
      if reservedWords.contains s then ⟨line, "\"" ++ s ++ "\" unexpected" ++ wanted⟩
      else ⟨line, "word unexpected" ++ wanted⟩
    | none => ⟨line, "word unexpected" ++ wanted⟩
  | ⟨line, _⟩ :: _ => ⟨line, "redirection unexpected" ++ wanted⟩

/-- The tokens after a word that has to stand next. -/
def expect (s : String) (ts : List Placed) : Except SyntaxFault (List Placed) :=
  if nextIs s ts then .ok (ts.drop 1) else .error (unexpected (some s) ts)

/-! ### Simple commands -/

/-- The name and the value of a word that is an assignment. -/
def assignment? (w : Word) : Option (String × Word) :=
  match w with
  | .text s false :: rest =>
    match Text.splitAt? ['='] s.toList with
    | some (name, value) =>
      if name.head?.any isNameStart && name.all isNameChar then
        some (String.ofList name, if value.isEmpty then rest else .text (String.ofList value) false :: rest)
      else none
    | none => none
  | _ => none

/-- Reads redirections. -/
def readRedirects : List Placed → Except SyntaxFault (Parsed (List Redirect))
  | ⟨_, .here text⟩ :: rest =>
    (readRedirects rest).map fun (rs, rest) => (⟨0, .here, text⟩ :: rs, rest)
  | ⟨_, .redirect descriptor kind⟩ :: ⟨_, .word w⟩ :: rest =>
    (readRedirects rest).map fun (rs, rest) => (⟨descriptor, kind, w⟩ :: rs, rest)
  | ⟨_, .redirect ..⟩ :: rest => .error (unexpected none rest)
  | ts => .ok ([], ts)

/-- Reads the words of a simple command; `started` says whether one stands before them that is no assignment. -/
def readSimple (started : Bool) :
    List Placed → Except SyntaxFault (Parsed (List (String × Word) × List Word × List Redirect))
  | ⟨_, .word w⟩ :: rest =>
    match started, assignment? w with
    | false, some a => (readSimple false rest).map fun ((as, ws, rs), rest) => ((a :: as, ws, rs), rest)
    | _, _ => (readSimple true rest).map fun ((as, ws, rs), rest) => ((as, w :: ws, rs), rest)
  | ⟨_, .here text⟩ :: rest =>
    (readSimple started rest).map fun ((as, ws, rs), rest) => ((as, ws, ⟨0, .here, text⟩ :: rs), rest)
  | ⟨_, .redirect descriptor kind⟩ :: ⟨_, .word w⟩ :: rest =>
    (readSimple started rest).map fun ((as, ws, rs), rest) => ((as, ws, ⟨descriptor, kind, w⟩ :: rs), rest)
  | ⟨_, .redirect ..⟩ :: rest => .error (unexpected none rest)
  | ts => .ok (([], [], []), ts)

/-- Reads words up to the end of a list of words. -/
def readWords : List Placed → List Word × List Placed
  | ⟨_, .word w⟩ :: rest =>
    let (ws, rest) := readWords rest
    (w :: ws, rest)
  | ts => ([], ts)

/-! ### Compound commands -/

mutual

/-- Reads commands up to a token that begins none.  The fuel bounds the depth and the length. -/
def readSequence : Nat → List Placed → Except SyntaxFault (Parsed (List Phrase))
  | 0, ts => .error (unexpected none ts)
  | fuel + 1, ts =>
    let ts := dropLineEnds ts
    match ts with
    | ⟨_, .operator ")"⟩ :: _ => .ok ([], ts)
    | ⟨_, .finish⟩ :: _ => .ok ([], ts)
    | _ =>
      if (plainWord? ts).any closingWords.contains then .ok ([], ts)
      else do
        let (first, ts) ← readAndOr fuel ts
        match ts with
        | ⟨_, .operator ";"⟩ :: rest | ⟨_, .lineEnd⟩ :: rest =>
          let (others, ts) ← readSequence fuel rest
          return (first :: others, ts)
        | ⟨_, .operator "&"⟩ :: rest =>
          let (others, ts) ← readSequence fuel rest
          return (.background first :: others, ts)
        | _ => return ([first], ts)

/-- Reads a sequence that is not empty, unless the script ends there. -/
def readBody : Nat → List Placed → Except SyntaxFault (Parsed Phrase)
  | 0, ts => .error (unexpected none ts)
  | fuel + 1, ts => do
    let (items, rest) ← readSequence fuel ts
    match items, rest with
    | [], ⟨_, .finish⟩ :: _ => return (.nothing, rest)
    | [], _ => throw (unexpected none rest)
    | _, _ => return (.sequence items, rest)

/-- Reads pipelines that are joined by conditions. -/
def readAndOr : Nat → List Placed → Except SyntaxFault (Parsed Phrase)
  | 0, ts => .error (unexpected none ts)
  | fuel + 1, ts => do
    let (first, ts) ← readPipeline fuel ts
    readJoined fuel first ts

/-- Reads what is joined to a pipeline by conditions. -/
def readJoined : Nat → Phrase → List Placed → Except SyntaxFault (Parsed Phrase)
  | 0, _, ts => .error (unexpected none ts)
  | fuel + 1, first, ts =>
    match ts with
    | ⟨_, .operator "&&"⟩ :: rest => do
      let (second, ts) ← readPipeline fuel (dropLineEnds rest)
      readJoined fuel (.both first second) ts
    | ⟨_, .operator "||"⟩ :: rest => do
      let (second, ts) ← readPipeline fuel (dropLineEnds rest)
      readJoined fuel (.either first second) ts
    | _ => .ok (first, ts)

/-- Reads a pipeline. -/
def readPipeline : Nat → List Placed → Except SyntaxFault (Parsed Phrase)
  | 0, ts => .error (unexpected none ts)
  | fuel + 1, ts =>
    if nextIs "!" ts then do
      let (body, ts) ← readPipeline fuel (ts.drop 1)
      return (.negate body, ts)
    else do
      let (first, ts) ← readCommand fuel ts
      match ts with
      | ⟨_, .operator "|"⟩ :: rest =>
        let (second, ts) ← readPipeline fuel (dropLineEnds rest)
        return (.pipeline first second, ts)
      | _ => return (first, ts)

/-- Reads a command. -/
def readCommand : Nat → List Placed → Except SyntaxFault (Parsed Phrase)
  | 0, ts => .error (unexpected none ts)
  | fuel + 1, ts => do
    let compound : Option (Except SyntaxFault (Parsed Phrase)) :=
      match plainWord? ts with
      | some "if" => some (readBranch fuel (ts.drop 1))
      | some "while" => some (readLoop fuel false (ts.drop 1))
      | some "until" => some (readLoop fuel true (ts.drop 1))
      | some "for" => some (readEach fuel (ts.drop 1))
      | some "\x7b" => some (do
        let (body, ts) ← readBody fuel (ts.drop 1)
        return (body, ← expect "\x7d" ts))
      | _ =>
        if nextIsOperator "(" ts then some (do
          let (body, ts) ← readBody fuel (ts.drop 1)
          if nextIsOperator ")" ts then return (.subshell body, ts.drop 1)
          throw (unexpected (some ")") ts))
        else none
    match compound with
    | some reading =>
      let (body, ts) ← reading
      let (redirects, ts) ← readRedirects ts
      return (if redirects.isEmpty then body else .redirected body redirects, ts)
    | none =>
      if (plainWord? ts).any reservedWords.contains then throw (unexpected none ts)
      let ((assignments, words, redirects), rest) ← readSimple false ts
      if assignments.isEmpty && words.isEmpty && redirects.isEmpty then throw (unexpected none ts)
      let line := (ts.head?.map Placed.line).getD 0
      return (.simple line assignments words redirects, rest)

/-- Reads a condition after its first word. -/
def readBranch : Nat → List Placed → Except SyntaxFault (Parsed Phrase)
  | 0, ts => .error (unexpected none ts)
  | fuel + 1, ts => do
    let (test, ts) ← readBody fuel ts
    let (body, ts) ← readBody fuel (← expect "then" ts)
    if nextIs "elif" ts then
      let (otherwise, ts) ← readBranch fuel (ts.drop 1)
      return (.branch test body otherwise, ts)
    else if nextIs "else" ts then
      let (otherwise, ts) ← readBody fuel (ts.drop 1)
      return (.branch test body otherwise, ← expect "fi" ts)
    else return (.branch test body .nothing, ← expect "fi" ts)

/-- Reads a loop after its first word. -/
def readLoop : Nat → Bool → List Placed → Except SyntaxFault (Parsed Phrase)
  | 0, _, ts => .error (unexpected none ts)
  | fuel + 1, fails, ts => do
    let (test, ts) ← readBody fuel ts
    let (body, ts) ← readBody fuel (← expect "do" ts)
    return (.loop fails test body, ← expect "done" ts)

/-- Reads a loop over words after its first word. -/
def readEach : Nat → List Placed → Except SyntaxFault (Parsed Phrase)
  | 0, ts => .error (unexpected none ts)
  | fuel + 1, ts => do
    match plainWord? ts with
    | none => throw (unexpected none ts)
    | some name =>
      let ts := dropLineEnds (ts.drop 1)
      let (words, ts) : Option (List Word) × List Placed :=
        if nextIs "in" ts then
          let (ws, ts) := readWords (ts.drop 1)
          (some ws, ts)
        else (none, ts)
      let ts := if nextIsOperator ";" ts then ts.drop 1 else ts
      let (body, ts) ← readBody fuel (← expect "do" (dropLineEnds ts))
      return (.each name words body, ← expect "done" ts)

end

/-! ### Command lines -/

/-- Reads the commands of a line. -/
def readItems : Nat → List Placed → Except SyntaxFault (Parsed (List Phrase))
  | 0, ts => .error (unexpected none ts)
  | fuel + 1, ts => do
    match ts with
    | ⟨_, .lineEnd⟩ :: rest => return ([], rest)
    | ⟨_, .finish⟩ :: _ => return ([], ts)
    | _ =>
      let (first, ts) ← readAndOr (8 * ts.length + 8) ts
      match ts with
      | ⟨_, .operator ";"⟩ :: rest =>
        let (others, ts) ← readItems fuel rest
        return (first :: others, ts)
      | ⟨_, .operator "&"⟩ :: rest =>
        let (others, ts) ← readItems fuel rest
        return (.background first :: others, ts)
      | ⟨_, .lineEnd⟩ :: rest => return ([first], rest)
      | ⟨_, .finish⟩ :: _ => return ([first], ts)
      | _ => throw (unexpected none ts)

/-- The phrase of the next command line, and the tokens after it; nothing at the end of the script. -/
def readLine (ts : List Placed) : Except SyntaxFault (Option (Phrase × List Placed)) := do
  match dropLineEnds ts with
  | [] => return none
  | ⟨_, .finish⟩ :: _ => return none
  | ts =>
    let (items, rest) ← readItems (ts.length + 1) ts
    return some (.sequence items, rest)

end SuiteRunner.Shell
