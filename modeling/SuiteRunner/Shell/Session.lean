import SuiteRunner.Shell.Reader
import SuiteRunner.Shell.Tool

/-!
# The state of a shell

Main definitions:

* `Channel` and `Streams`, where output goes;
* `Session`, what a shell knows and has done;
* `Halt`, the reasons to leave a phrase early;
* `Fields`, the words that a word is expanded to.
-/

namespace SuiteRunner.Shell

/-! ### Output -/

/-- Where output goes. -/
inductive Channel where
  | discard
  | file (location : Location)
  /-- A buffer of the session. -/
  | buffer (index : Nat)
  deriving DecidableEq, Repr

/-- Where the output and the complaints of a command go. -/
structure Streams where
  output : Channel
  errors : Channel
  deriving DecidableEq, Repr

namespace Streams

/-- The channel of a descriptor. -/
def channel (s : Streams) (descriptor : Nat) : Channel :=
  match descriptor with
  | 1 => s.output
  | 2 => s.errors
  | _ => .discard

/-- The streams with the channel of a descriptor changed. -/
def set (s : Streams) (descriptor : Nat) (c : Channel) : Streams :=
  match descriptor with
  | 1 => { s with output := c }
  | 2 => { s with errors := c }
  | _ => s

end Streams

/-! ### Sessions -/

/-- What a shell knows and has done. -/
structure Session where
  /-- The files; the working directory of the shell is theirs. -/
  files : FileTree
  /-- The name of the shell or of its script. -/
  name : String
  args : List String
  bindings : List (String × String)
  /-- The status of the last command. -/
  status : Nat
  input : Bytes
  buffers : List Bytes
  /-- How long the shell has run, and how long it may run, in milliseconds. -/
  elapsed : Nat
  limit : Nat
  /-- Whether the first failure ends the script. -/
  stopOnFailure : Bool

/-- The reasons to leave a phrase early. -/
inductive Halt where
  | exit (status : Nat)
  | killed (signal : Nat)
  | outOfTime
  /-- Leaves a number of loops. -/
  | leave (loops : Nat)
  /-- Goes on with the next turn of the loop around a number of loops. -/
  | again (loops : Nat)
  deriving DecidableEq, Repr

namespace Session

/-- Writes to a channel.  What goes to a file that is not there any more is lost. -/
def write (s : Session) (c : Channel) (b : Bytes) : Session :=
  match c with
  | .discard => s
  | .file l =>
    match s.files.entry? l with
    | some (.file old) => { s with files := s.files.put l (.file (old ++ b)) }
    | _ => s
  | .buffer i => { s with buffers := s.buffers.modify i (· ++ b) }

/-- A session with a status. -/
def ended (s : Session) (status : Nat) : Session := { s with status := status }

/-- Complains about a line of the script. -/
def complain (s : Session) (streams : Streams) (line : Nat) (message : String) (status : Nat) : Session :=
  (s.write streams.errors (bytesOf (s.name ++ ": " ++ toString line ++ ": " ++ message ++ "\n"))).ended status

/-- The value of a variable. -/
def lookup? (s : Session) (name : String) : Option String := s.bindings.lookup name

/-- Sets a variable. -/
def assign (s : Session) (name value : String) : Session :=
  { s with bindings := (name, value) :: s.bindings.filter (·.1 ≠ name) }

/-- The number that the shell has as a process. -/
def processNumber : Nat := 4242

/-- The value of a parameter. -/
def parameter? (s : Session) (name : String) : Option String :=
  match name with
  | "?" => some (toString s.status)
  | "$" => some (toString processNumber)
  | "#" => some (toString s.args.length)
  | "0" => some s.name
  | "@" | "*" => if s.args.isEmpty then none else some (" ".intercalate s.args)
  | "-" => some ""
  | "!" => none
  | _ =>
    match name.toNat? with
    | some n => s.args[n - 1]?
    | none => s.lookup? name

/-- Time passes. -/
def spend (s : Session) (ms : Nat) : Session × Option Halt :=
  if s.limit ≤ s.elapsed + ms && 0 < ms then ({ s with elapsed := s.limit }, some .outOfTime)
  else ({ s with elapsed := s.elapsed + ms }, none)

/-- Adds a buffer; it is the last one. -/
def openBuffer (s : Session) : Session × Nat := ({ s with buffers := s.buffers ++ [[]] }, s.buffers.length)

/-- Takes the last buffer away. -/
def closeBuffer (s : Session) : Session × Bytes :=
  ({ s with buffers := s.buffers.dropLast }, s.buffers.getLast?.getD [])

end Session

/-! ### Fields -/

/-- The words that a word is expanded to: the complete ones, the last first, and the open one. -/
structure Fields where
  complete : List String
  current : Option String
  deriving DecidableEq, Repr

namespace Fields

/-- No words. -/
def none : Fields := ⟨[], Option.none⟩

/-- Adds a text to the open word. -/
def add (f : Fields) (s : String) : Fields := { f with current := some (f.current.getD "" ++ s) }

/-- Ends the open word. -/
def close (f : Fields) : Fields :=
  match f.current with
  | some s => ⟨s :: f.complete, Option.none⟩
  | Option.none => f

/-- Adds a text that is split at white space. -/
def split (f : Fields) (s : String) : Fields :=
  s.toList.foldl (fun f c => if c = ' ' || c = '\t' || c = '\n' then f.close else f.add (String.singleton c)) f

/-- Adds texts that are words of their own; the first one belongs to the open word.  Without any, an open word that is
empty is dropped. -/
def addAll (f : Fields) : List String → Fields
  | [] => if f.current = some "" then { f with current := Option.none } else f
  | s :: rest => rest.foldl (fun f s => f.close.add s) (f.add s)

/-- All words. -/
def toList (f : Fields) : List String := f.close.complete.reverse

end Fields

end SuiteRunner.Shell
