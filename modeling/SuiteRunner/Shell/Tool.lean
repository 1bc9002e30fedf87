import SuiteRunner.FileTree
import SuiteRunner.Shell.Printf
import SuiteRunner.Text.Line

/-!
# Tools

Small programs that scripts call, and that can stand in the place of a simulator.

Main definitions:

* `Call` and `Reply`, what a tool is given and what it leaves behind;
* `tool?`, the tool of a name.
-/

namespace SuiteRunner.Shell

/-- What a tool is given. -/
structure Call where
  args : List String
  files : FileTree
  input : Bytes

/-- What a tool leaves behind. -/
structure Reply where
  output : Bytes
  errors : Bytes
  status : Nat
  files : FileTree
  /-- The part of the input that was not read. -/
  input : Bytes
  /-- How long the tool has slept, in milliseconds. -/
  slept : Nat

/-- A tool. -/
abbrev Tool := Call → Reply

/-- The bytes of a text. -/
def bytesOf (s : String) : Bytes := Utf8.encode s.toList

namespace Call

/-- Ends with a status. -/
def finish (c : Call) (status : Nat) : Reply := ⟨[], [], status, c.files, c.input, 0⟩

/-- Prints bytes. -/
def print (c : Call) (output : Bytes) : Reply := { c.finish 0 with output := output }

/-- Complains and ends with a status. -/
def complain (c : Call) (status : Nat) (message : String) : Reply :=
  { c.finish status with errors := bytesOf (message ++ "\n") }

/-- Does something with the files for each of the arguments.  Those that fail are complained about. -/
def forEach (c : Call) (args : List String) (act : FileTree → String → Except FileFault FileTree)
    (complaint : String → FileFault → String) : Reply :=
  args.foldl (fun r arg =>
    match act r.files arg with
    | .ok files => { r with files := files }
    | .error f => { r with status := 1, errors := r.errors ++ bytesOf (complaint arg f ++ "\n") }) (c.finish 0)

end Call

/-- A text in quotes. -/
def inQuotes (s : String) : String := "'" ++ s ++ "'"

/-! ### Output -/

/-- The arguments after the options of `echo`, and whether a line end follows and escapes are resolved. -/
def echoOptions (newline escapes : Bool) : List String → Bool × Bool × List String
  | [] => (newline, escapes, [])
  | arg :: args =>
    match arg.toList with
    | '-' :: c :: cs =>
      if (c :: cs).all fun c => c = 'n' || c = 'e' || c = 'E' then
        let last := (c :: cs).reverse.find? (· ≠ 'n')
        echoOptions (newline && !(c :: cs).contains 'n') ((last.map (· == 'e')).getD escapes) args
      else (newline, escapes, arg :: args)
    | _ => (newline, escapes, arg :: args)

/-- Prints arguments. -/
def echo : Tool := fun c =>
  let (newline, escapes, args) := echoOptions true false c.args
  let text := " ".intercalate args
  let (bytes, stopped) := if escapes then unescape true (text.length + 1) text.toList else (bytesOf text, false)
  c.print (if newline && !stopped then bytes ++ [10] else bytes)

/-- Prints a format with arguments; `wrong` is what is said of an argument that is not a number. -/
def formatted (c : Call) (format : String) (args : List String) (wrong : String → String) : Reply :=
  let p := (Format.ofText format).print args
  { c.print p.bytes with
    status := if p.wrong.isEmpty then 0 else 1
    errors := bytesOf (String.join (p.wrong.map fun w => wrong w ++ "\n")) }

/-- Prints a format with arguments. -/
def printf : Tool := fun c =>
  match if c.args.head? = some "--" then c.args.drop 1 else c.args with
  | [] => c.complain 1 "printf: missing operand\nTry 'printf --help' for more information."
  | format :: args =>
    let r := formatted c format args fun w => "printf: " ++ inQuotes w ++ ": expected a numeric value"
    match (Format.ofText format).takesArguments, args with
    | false, extra :: _ =>
      let warning := "printf: warning: ignoring excess arguments, starting with " ++ inQuotes extra ++ "\n"
      { r with errors := r.errors ++ bytesOf warning }
    | _, _ => r

/-- Prints numbers, one on a line. -/
def sequenceOf (first step last : Int) : Nat → List String
  | 0 => []
  | fuel + 1 =>
    if (0 < step && last < first) || (step < 0 && first < last) || step = 0 then []
    else toString first :: sequenceOf (first + step) step last fuel

/-- Prints the numbers of a range. -/
def seq : Tool := fun c =>
  let go (first step last : Int) : Reply :=
    c.print (bytesOf (String.join ((sequenceOf first step last ((last - first).natAbs + 1)).map (· ++ "\n"))))
  match c.args.map fun a => (Format.argument a).1 with
  | [last] => go 1 1 last
  | [first, last] => go first 1 last
  | [first, step, last] => go first step last
  | _ => c.complain 1 "seq: missing operand\nTry 'seq --help' for more information."

/-! ### Input -/

/-- Prints files, or the input. -/
def cat : Tool := fun c =>
  let args := if c.args.isEmpty then ["-"] else c.args
  args.foldl (fun r arg =>
    if arg = "-" then { r with output := r.output ++ r.input, input := [] }
    else
      match c.files.readBytes arg with
      | .ok bytes => { r with output := r.output ++ bytes }
      | .error f => { r with status := 1, errors := r.errors ++ bytesOf ("cat: " ++ arg ++ ": " ++ f.reason ++ "\n") })
    (c.finish 0)

/-- The first lines of bytes. -/
def firstLines : Nat → Bytes → Bytes
  | 0, _ => []
  | n + 1, b =>
    let l := b.takeWhile (· ≠ 10)
    match b.drop l.length with
    | [] => l
    | _ :: rest => l ++ 10 :: firstLines n rest

/-- Prints the first lines or bytes of a file, or of the input. -/
def head : Tool := fun c =>
  let count (s : String) : Nat := (Format.argument s).1.toNat
  let (cut, args) : (Bytes → Bytes) × List String :=
    match c.args with
    | "-n" :: n :: rest => (firstLines (count n), rest)
    | "-c" :: n :: rest => (List.take (count n), rest)
    | arg :: rest =>
      match arg.toList with
      | '-' :: 'n' :: ds => (firstLines (count (String.ofList ds)), rest)
      | '-' :: 'c' :: ds => (List.take (count (String.ofList ds)), rest)
      | '-' :: d :: ds => (firstLines (count (String.ofList (d :: ds))), rest)
      | _ => (firstLines 10, arg :: rest)
    | [] => (firstLines 10, [])
  match args with
  | [] => { c.print (cut c.input) with input := [] }
  | arg :: _ =>
    match c.files.readBytes arg with
    | .ok bytes => c.print (cut bytes)
    | .error f => c.complain 1 ("head: cannot open " ++ inQuotes arg ++ " for reading: " ++ f.reason)

/-! ### Files -/

/-- The options in front of arguments, and the arguments after them. -/
def splitOptions : List String → List Char × List String
  | [] => ([], [])
  | arg :: args =>
    match arg.toList with
    | ['-', '-'] => ([], args)
    | '-' :: c :: cs =>
      let (options, rest) := splitOptions args
      (c :: cs ++ options, rest)
    | _ => ([], arg :: args)

/-- Prints the working directory. -/
def pwd : Tool := fun c => c.print (bytesOf (c.files.working.path ++ "\n"))

/-- Removes files. -/
def rm : Tool := fun c =>
  let (options, args) := splitOptions c.args
  let force := options.contains 'f'
  let deep := options.contains 'r' || options.contains 'R'
  c.forEach args (fun files arg =>
    match (if deep then files.removeAll arg else files.remove arg) with
    | .error .notFound => if force then .ok files else .error .notFound
    | r => r) fun arg f => "rm: cannot remove " ++ inQuotes arg ++ ": " ++ f.reason

/-- Creates directories. -/
def mkdir : Tool := fun c =>
  let (options, args) := splitOptions c.args
  c.forEach args (fun files arg =>
    if options.contains 'p' then files.createDirectories arg else files.createDirectory arg)
    fun arg f => "mkdir: cannot create directory " ++ inQuotes arg ++ ": " ++ f.reason

/-- Removes empty directories. -/
def rmdir : Tool := fun c =>
  c.forEach c.args FileTree.removeDirectory fun arg f => "rmdir: failed to remove " ++ inQuotes arg ++ ": " ++ f.reason

/-- Creates files that are not there. -/
def touch : Tool := fun c =>
  c.forEach c.args (fun files arg => if files.exists? arg then .ok files else files.write arg [])
    fun arg f => "touch: cannot touch " ++ inQuotes arg ++ ": " ++ f.reason

/-- Prints the names in a directory. -/
def ls : Tool := fun c =>
  let (_, args) := splitOptions c.args
  let arg := args.head?.getD "."
  if c.files.isFile arg then c.print (bytesOf (arg ++ "\n"))
  else
    match c.files.list arg with
    | .ok names =>
      c.print (bytesOf (String.join ((names.filter fun n => n.front ≠ '.').map (· ++ "\n"))))
    | .error f => c.complain 2 ("ls: cannot access " ++ inQuotes arg ++ ": " ++ f.reason)

/-! ### Conditions -/

/-- A whole number, which may have blanks around it. -/
def wholeNumber (s : String) : Except String Int :=
  match Numeral.intWithin? 10 (-9223372036854775808) 9223372036854775807 (Text.trim s.toList) with
  | some n => .ok n
  | none => .error ("Illegal number: " ++ s)

/-- The truth of a comparison of two numbers. -/
def compareNumbers (holds : Int → Int → Bool) (a b : String) : Except String Bool := do
  let x ← wholeNumber a
  return holds x (← wholeNumber b)

/-- The truth of a condition with an operator and one operand. -/
def unaryCondition (files : FileTree) (op a : String) : Except String Bool :=
  match op with
  | "-n" => .ok (a ≠ "")
  | "-z" => .ok (a = "")
  | "-e" | "-r" | "-w" => .ok (files.exists? a)
  | "-f" => .ok (files.isFile a)
  | "-d" | "-x" => .ok (files.isDirectory a)
  | "-s" => .ok ((files.size? a).any (0 < ·))
  | "-L" | "-h" | "-t" => .ok false
  | _ => .error (op ++ ": unexpected operator")

/-- The truth of a condition with an operator between two operands; nothing if there is no such operator. -/
def binaryCondition? (a op b : String) : Option (Except String Bool) :=
  match op with
  | "=" | "==" => some (.ok (a = b))
  | "!=" => some (.ok (a ≠ b))
  | "-eq" => some (compareNumbers (fun x y => x = y) a b)
  | "-ne" => some (compareNumbers (fun x y => x ≠ y) a b)
  | "-lt" => some (compareNumbers (fun x y => x < y) a b)
  | "-le" => some (compareNumbers (fun x y => x ≤ y) a b)
  | "-gt" => some (compareNumbers (fun x y => y < x) a b)
  | "-ge" => some (compareNumbers (fun x y => y ≤ x) a b)
  | _ => none

/-- The words before and after the first one that joins conditions. -/
def splitWords? (joint : String) (words : List String) : Option (List String × List String) :=
  match words.dropWhile (· ≠ joint) with
  | _ :: rest => some (words.takeWhile (· ≠ joint), rest)
  | [] => none

/-- The truth of a condition of the tool `test`, or what is wrong with it.  The fuel bounds the number of conditions
that are joined or denied. -/
def condition (files : FileTree) : Nat → List String → Except String Bool
  | 0, words => .error (words.head?.getD "" ++ ": unexpected operator")
  | fuel + 1, words =>
    let joined : Except String Bool :=
      match splitWords? "-o" words, splitWords? "-a" words, words with
      | some (first, second), _, _ => do return (← condition files fuel first) || (← condition files fuel second)
      | none, some (first, second), _ => do return (← condition files fuel first) && (← condition files fuel second)
      | none, none, "!" :: rest => (condition files fuel rest).map (!·)
      | none, none, _ => .error (words.head?.getD "" ++ ": unexpected operator")
    match words with
    | [] => .ok false
    | [a] => .ok (a ≠ "")
    | ["!", a] => .ok (a = "")
    | [op, a] => unaryCondition files op a
    | [a, op, b] => (binaryCondition? a op b).getD joined
    | _ => joined

/-- Ends with success if a condition holds.  Complaints begin with the name of the tool. -/
def testAs (name : String) : Tool := fun c =>
  match condition c.files (c.args.length + 1) c.args with
  | .ok b => c.finish (if b then 0 else 1)
  | .error problem => c.complain 2 (name ++ ": " ++ problem)

/-- The tool `test` with its arguments in square brackets. -/
def bracket : Tool := fun c =>
  if c.args.getLast? = some "]" then testAs "[" { c with args := c.args.dropLast } else c.complain 2 "[: missing ]"

/-! ### Time -/

/-- A duration in milliseconds: a decimal number and a unit. -/
def duration? (s : String) : Option Nat :=
  let whole := s.toList.takeWhile Char.isDigit
  let rest := s.toList.drop whole.length
  let (places, rest) : List Char × List Char :=
    match rest with
    | '.' :: after => (after.takeWhile Char.isDigit, after.dropWhile Char.isDigit)
    | rest => ([], rest)
  let unit : Option Nat :=
    match rest with
    | [] | ['s'] => some 1
    | ['m'] => some 60
    | ['h'] => some 3600
    | ['d'] => some 86400
    | _ => none
  if whole.isEmpty && places.isEmpty then none
  else
    let number (ds : List Char) : Nat := (Numeral.digits? 10 ds).getD 0
    unit.map fun u => u * (number whole * 1000 + number places * 1000 / Nat.pow 10 places.length)

/-- Sleeps. -/
def sleep : Tool := fun c =>
  match c.args.mapM duration? with
  | some (d :: ds) => { c.finish 0 with slept := Numeral.total (d :: ds) }
  | some [] => c.complain 1 "sleep: missing operand\nTry 'sleep --help' for more information."
  | none => c.complain 1 ("sleep: invalid time interval " ++ inQuotes (c.args.head?.getD "") ++
      "\nTry 'sleep --help' for more information.")

/-! ### The tools by name -/

/-- The tool of a name. -/
def tool? (name : String) : Option Tool :=
  match name with
  | "true" => some fun c => c.finish 0
  | "false" => some fun c => c.finish 1
  | "echo" => some echo
  | "printf" => some printf
  | "seq" => some seq
  | "cat" => some cat
  | "head" => some head
  | "pwd" => some pwd
  | "rm" => some rm
  | "mkdir" => some mkdir
  | "rmdir" => some rmdir
  | "touch" => some touch
  | "ls" => some ls
  | "test" => some (testAs "test")
  | "[" => some bracket
  | "sleep" => some sleep
  | _ => none

end SuiteRunner.Shell
