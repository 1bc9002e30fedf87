import SuiteRunner.Shell.Session

/-!
# What a shell does by itself

Main definitions:

* `Ran`, what a step leaves;
* `kill` and `builtin?`, the commands of the shell itself;
* `redirect`, which opens the files of redirections;
* `Called`, how a shell was called.
-/

namespace SuiteRunner.Shell

/-- A session, and why a phrase was left early if it was. -/
abbrev Ran := Session × Option Halt

/-! ### Signals -/

/-- The signals that scripts name. -/
def signalNames : List (String × Nat) := [
  ("HUP", 1), ("INT", 2), ("QUIT", 3), ("ILL", 4), ("TRAP", 5), ("ABRT", 6), ("BUS", 7), ("FPE", 8), ("KILL", 9),
  ("USR1", 10), ("SEGV", 11), ("USR2", 12), ("PIPE", 13), ("ALRM", 14), ("TERM", 15), ("CHLD", 17), ("CONT", 18),
  ("STOP", 19), ("TSTP", 20), ("TTIN", 21), ("TTOU", 22), ("URG", 23), ("XCPU", 24), ("XFSZ", 25), ("VTALRM", 26),
  ("PROF", 27), ("WINCH", 28), ("IO", 29), ("PWR", 30), ("SYS", 31)]

/-- The number of a signal. -/
def signal? (s : String) : Option Nat :=
  match s.toNat? with
  | some n => some n
  | none =>
    let s := if s.startsWith "SIG" then String.ofList (s.toList.drop 3) else s
    signalNames.lookup s

/-- The signal and the processes of the arguments of `kill`. -/
def killArguments (args : List String) : Option Nat × List String :=
  match args with
  | "-s" :: name :: rest => (signal? name, rest)
  | "--" :: rest => (some 15, rest)
  | first :: rest =>
    match first.toList with
    | '-' :: name => (signal? (String.ofList name), rest)
    | _ => (some 15, args)
  | [] => (some 15, [])

/-- Holds for signals that do not end a process. -/
def isHarmless (signal : Nat) : Bool := [0, 17, 18, 23, 28].contains signal

/-- Holds for signals that stop a process without ending it. -/
def isPause (signal : Nat) : Bool := [19, 20, 21, 22].contains signal

/-- Sends signals. -/
def kill (s : Session) (streams : Streams) (line : Nat) (args : List String) : Ran :=
  match killArguments args with
  | (none, _) => (s.complain streams line "kill: Illegal option -" 2, none)
  | (some signal, targets) =>
    if targets.contains (toString Session.processNumber) then
      if isHarmless signal then (s.ended 0, none)
      else if isPause signal then ({ s with elapsed := s.limit }, some .outOfTime)
      else (s, some (.killed signal))
    else if targets.isEmpty then
      (s.complain streams line "kill: Usage: kill [-s sigspec | -signum | -sigspec] [pid | job]..." 2, none)
    else (s.complain streams line "kill: No such process" 1, none)

/-! ### Programs -/

/-- Prints arguments with their escapes resolved. -/
def plainEcho (args : List String) : Bytes :=
  let (newline, args) : Bool × List String :=
    match args with
    | "-n" :: rest => (false, rest)
    | args => (true, args)
  let text := " ".intercalate args
  let (bytes, stopped) := unescape true (text.length + 1) text.toList
  if newline && !stopped then bytes ++ [10] else bytes

/-- Hands the reply of a tool over. -/
def settle (s : Session) (streams : Streams) (r : Reply) : Ran :=
  let s := { s with files := r.files, input := r.input }
  let s := (s.write streams.output r.output).write streams.errors r.errors
  (s.ended r.status).spend r.slept

/-- The directories that programs are looked up in. -/
def programDirs : List String := ["/bin", "/usr/bin"]

/-- The name of a program of the machine, if a path leads to one. -/
def programAt? (path : String) : Option String :=
  if programDirs.contains ((Path.parent? path).getD "") then
    (Path.name? path).filter fun n => n = "sh" || (tool? n).isSome
  else none

/-- The exit status that a text gives. -/
def exitStatus? (arg : String) : Option Nat :=
  let ds := arg.toList
  if !ds.isEmpty && ds.all Char.isDigit then (Numeral.digits? 10 ds).map (· % 256) else none

/-- The words of a line for a number of variables; the last variable takes what is left of the line. -/
def wordsFor : Nat → List Char → List String
  | 0, _ => []
  | 1, s => [String.ofList (Text.trim s)]
  | n + 2, s =>
    let s := Text.trimStart s
    let isBlank (c : Char) : Bool := c = ' ' || c = '\t'
    String.ofList (s.takeWhile (!isBlank ·)) :: wordsFor (n + 1) (s.dropWhile (!isBlank ·))

/-- Reads a line of the input into variables. -/
def readInto (s : Session) (names : List String) : Session :=
  let l := s.input.takeWhile (· ≠ 10)
  let rest := s.input.drop l.length
  let words := wordsFor names.length (Utf8.decodeLossy l)
  let s := (names.zip words).foldl (fun s (name, word) => s.assign name word) { s with input := rest.drop 1 }
  s.ended (if rest.isEmpty then 1 else 0)

/-- Runs a command of the shell itself.  Nothing if the shell has no such command. -/
def builtin? (s : Session) (streams : Streams) (line : Nat) (name : String) (args : List String) : Option Ran :=
  let loops : Nat := ((args.head?.bind String.toNat?).getD 1) - 1
  match name with
  | ":" | "true" => some (s.ended 0, none)
  | "false" => some (s.ended 1, none)
  | "exit" =>
    match args with
    | [] => some (s, some (.exit s.status))
    | arg :: _ =>
      match exitStatus? arg with
      | some n => some (s.ended n, some (.exit n))
      | none => some (s.complain streams line ("exit: Illegal number: " ++ arg) 2, some (.exit 2))
  | "echo" => some ((s.write streams.output (plainEcho args)).ended 0, none)
  | "printf" =>
    match if args.head? = some "--" then args.drop 1 else args with
    | [] => some (s.complain streams line "printf: usage: printf format [arg ...]" 2, none)
    | format :: args =>
      let wrong (w : String) : String :=
        s.name ++ ": " ++ toString line ++ ": printf: " ++ w ++ ": expected numeric value"
      some (settle s streams (formatted ⟨args, s.files, s.input⟩ format args wrong))
  | "cd" =>
    let target := args.head?.getD ((s.lookup? "HOME").getD "/")
    match s.files.find target with
    | .ok (l, .directory) =>
      some (({ s with files := { s.files with working := l } }.assign "PWD" l.path).ended 0, none)
    | _ => some (s.complain streams line ("cd: can't cd to " ++ target) 2, none)
  | "kill" => some (kill s streams line args)
  | "break" => some (s.ended 0, some (.leave loops))
  | "continue" => some (s.ended 0, some (.again loops))
  | "return" =>
    let status := ((args.head?.bind exitStatus?)).getD s.status
    some (s.ended status, some (.exit status))
  | "shift" =>
    if s.args.length < loops + 1 then some (s.complain streams line "shift: can't shift that many" 2, some (.exit 2))
    else some ({ s with args := s.args.drop (loops + 1) }.ended 0, none)
  | "read" => some (readInto s (args.filter fun a => a ≠ "-r"), none)
  | "unset" => some ({ s with bindings := s.bindings.filter fun v => !args.contains v.1 }.ended 0, none)
  | "export" | "readonly" =>
    let assigned := args.foldl (fun s a =>
      match Text.splitAt? ['='] a.toList with
      | some (n, v) => s.assign (String.ofList n) (String.ofList v)
      | none => s) s
    some (assigned.ended 0, none)
  | "set" =>
    match args with
    | "-e" :: _ => some ({ s with stopOnFailure := true }.ended 0, none)
    | "+e" :: _ => some ({ s with stopOnFailure := false }.ended 0, none)
    | "--" :: rest => some ({ s with args := rest }.ended 0, none)
    | _ => some (s.ended 0, none)
  | "trap" | "wait" | "umask" | "ulimit" => some (s.ended 0, none)
  | _ => none

/-- Redirects the streams of a session.  A redirection that fails leaves nothing but its complaint. -/
def redirect (streams : Streams) (line : Nat) (s : Session) :
    List (Nat × RedirectKind × String) → Session × Option Streams
  | [] => (s, some streams)
  | (descriptor, kind, target) :: rest =>
    let toFile (empty : Bool) : Session × Option Streams :=
      if target = "/dev/null" then redirect (streams.set descriptor .discard) line s rest
      else if target = "/dev/stdout" then redirect (streams.set descriptor streams.output) line s rest
      else if target = "/dev/stderr" then redirect (streams.set descriptor streams.errors) line s rest
      else
        match if empty then s.files.write target [] else s.files.append target [] with
        | .ok files =>
          match files.locate target with
          | .ok l => redirect (streams.set descriptor (.file l)) line { s with files := files } rest
          | .error _ => (s, none)
        | .error f =>
          let reason := match f with
            | .notFound | .notDirectory => "Directory nonexistent"
            | f => f.reason
          (s.complain streams line ("cannot create " ++ target ++ ": " ++ reason) 2, none)
    match kind with
    | .output => toFile true
    | .append => toFile false
    | .duplicate =>
      let channel := match target.toNat? with
        | some n => streams.channel n
        | none => .discard
      redirect (streams.set descriptor channel) line s rest
    | .here => redirect streams line { s with input := bytesOf target } rest
    | .input =>
      if target = "/dev/null" then redirect streams line { s with input := [] } rest
      else
        match s.files.readBytes target with
        | .ok bytes => redirect streams line { s with input := bytes } rest
        | .error f =>
          let reason := match f with
            | .notFound | .notDirectory => "No such file"
            | f => f.reason
          (s.complain streams line ("cannot open " ++ target ++ ": " ++ reason) 2, none)

/-! ### Options of a shell -/

/-- How a shell was called. -/
structure Called where
  /-- The script, if it stands in the arguments. -/
  script : Option String
  stopOnFailure : Bool
  /-- Whether the script is only read. -/
  onlyRead : Bool
  rest : List String
  deriving DecidableEq, Repr

/-- Reads the arguments of a shell; a character that is no option is a fault. -/
def Called.ofArgs : List String → Called → Except Char Called
  | [], c => .ok c
  | arg :: args, c =>
    match arg.toList with
    | ['-'] | ['-', '-'] => .ok { c with rest := args }
    | '-' :: flags =>
      match flags.find? fun f => !"aefnuvxsilmbpcIECV".contains f with
      | some f => .error f
      | none =>
        ofArgs args { c with
          script := if flags.contains 'c' then some "" else c.script
          stopOnFailure := c.stopOnFailure || flags.contains 'e'
          onlyRead := c.onlyRead || flags.contains 'n' }
    | _ => .ok { c with rest := arg :: args }

end SuiteRunner.Shell
