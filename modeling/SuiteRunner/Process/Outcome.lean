import SuiteRunner.FileName
import SuiteRunner.FileTree
import SuiteRunner.Process.Command

/-!
# Processes

What a started program is given, and how it ends.

Main definitions:

* `Capture`, where a process runs and where its output goes, with `Capture.within`;
* `Outcome`, how a process ended, with `Outcome.describe`;
* `ProcessFault`, the reasons why a process was not started;
* `Launch` and `Machine`.  A machine runs a process and says what it left behind.
-/

namespace SuiteRunner

/-! ### Output -/

/-- Where a process runs, and the files that take its output. -/
structure Capture where
  workingDir : String
  stdout : String
  stderr : String
  deriving DecidableEq, Repr

/-- The captures in the directory `outputDir` for a name, which is made safe first. -/
def Capture.within (workingDir outputDir name : String) : Capture :=
  let safe := fileSafe name
  ⟨workingDir, Path.join outputDir (safe ++ ".out"), Path.join outputDir (safe ++ ".err")⟩

/-! ### Ends -/

/-- How a process ended. -/
structure Outcome where
  exitCode : Option Int
  signal : Option Int
  timedOut : Bool
  elapsedMs : Nat
  deriving DecidableEq, Repr

namespace Outcome

/-- A process that ended by itself. -/
def exited (code : Int) : Outcome := ⟨some code, none, false, 0⟩

/-- A process that was ended by a signal. -/
def killed (signal : Int) : Outcome := ⟨none, some signal, false, 0⟩

/-- A process that did not end in time. -/
def timeout (elapsedMs : Nat) : Outcome := ⟨none, none, true, elapsedMs⟩

/-- The end of a process in words. -/
def describe (o : Outcome) : String :=
  if o.timedOut then "timed out after " ++ toString (o.elapsedMs / 1000) ++ "s"
  else
    match o.exitCode, o.signal with
    | some code, _ => "exit code " ++ toString code
    | none, some signal => "killed by signal " ++ toString signal
    | none, none => "terminated abnormally"

end Outcome

/-! ### Starts -/

/-- The reasons why the system does not start a program. -/
inductive StartFault where
  | file (fault : FileFault)
  | nulInArgument
  deriving DecidableEq, Repr

/-- The message of a fault. -/
def StartFault.message : StartFault → String
  | file f => f.message
  | nulInArgument => "nul byte found in provided data"

/-- The reasons why a process was not started. -/
inductive ProcessFault where
  | noStart (program : String) (fault : StartFault)
  | noCapture (path : String) (fault : FileFault)
  deriving DecidableEq, Repr

/-- The message of a fault; the cause stands in it twice. -/
def ProcessFault.message : ProcessFault → String
  | noStart p f => "Failed to start " ++ p ++ ": " ++ f.message ++ ": " ++ f.message
  | noCapture p f => "Failed to create output file " ++ p ++ ": " ++ f.message ++ ": " ++ f.message

/-- A program that is to be started: its arguments, its captures, and its time limit in seconds. -/
structure Launch where
  program : String
  argv : List String
  capture : Capture
  timeoutSecs : Nat
  deriving DecidableEq, Repr

/-- A machine runs processes on a file tree.  The files that take the output of the process are there when it
starts. -/
abbrev Machine := FileTree → Launch → Except StartFault (Outcome × FileTree)

/-- Creates the captures and runs a command on a machine.  The files are also given when the command does not
start. -/
def runCommand (machine : Machine) (files : FileTree) (command : Command) (capture : Capture) (timeoutSecs : Nat) :
    Except ProcessFault Outcome × FileTree :=
  match files.write capture.stdout [] with
  | .error f => (.error (.noCapture capture.stdout f), files)
  | .ok files =>
    match files.write capture.stderr [] with
    | .error f => (.error (.noCapture capture.stderr f), files)
    | .ok files =>
      match machine files ⟨command.program, command.argv, capture, timeoutSecs⟩ with
      | .error f => (.error (.noStart command.program f), files)
      | .ok (outcome, files) => (.ok outcome, files)

end SuiteRunner
