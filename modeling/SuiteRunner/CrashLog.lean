import SuiteRunner.FileTree
import SuiteRunner.Instant

/-!
# The crash log

Every crash adds an entry to the file `crash.log` of the output directory.  Before an entry would make the log longer
than a limit, the log is put aside: it becomes `crash.log.1`, which becomes `crash.log.2`, and so on.  Three logs are
kept aside, and the oldest one is given up.

Main definitions:

* `Crash` and `Crash.entry`;
* `CrashLog.append`, which puts the log aside if it has to;
* `CrashLog.record`, the files after a crash.
-/

namespace SuiteRunner

/-- A crash of the program. -/
structure Crash where
  time : Instant
  /-- The place in the program, as a file and a line. -/
  place : String
  message : String
  /-- The calls that led to the place. -/
  trace : String
  deriving DecidableEq, Repr

/-- The entry of a crash in the log. -/
def Crash.entry (c : Crash) : String :=
  "[" ++ c.time.offsetText ++ "] panic at " ++ c.place ++ ": " ++ c.message ++ "\n" ++ c.trace ++ "\n"

namespace CrashLog

/-- The status with which the program exits after a crash. -/
def exitCode : Nat := 101

/-- How many bytes a log may have that takes another entry. -/
def sizeLimit : Nat := 1024 * 1024

/-- How many logs are kept aside. -/
def keptAside : Nat := 3

/-- The log of an output directory. -/
def path (outputDir : String) : String := Path.join outputDir "crash.log"

/-- The `n`th log that was put aside. -/
def aside (log : String) (n : Nat) : String := log ++ "." ++ toString n

/-- Moves the logs `n`, …, `1` that were put aside one place on. -/
def shift (log : String) : Nat → FileTree → Except FileFault FileTree
  | 0, files => .ok files
  | n + 1, files => do
    let files ←
      if files.exists? (aside log (n + 1)) then files.rename (aside log (n + 1)) (aside log (n + 2)) else pure files
    shift log n files

/-- Puts the log aside. -/
def rotate (files : FileTree) (log : String) : Except FileFault FileTree := do
  let oldest := aside log keptAside
  let files ← if files.exists? oldest then files.remove oldest else pure files
  let files ← shift log (keptAside - 1) files
  files.rename log (aside log 1)

/-- Adds an entry to a log. -/
def append (files : FileTree) (log : String) (entry : Bytes) : Except FileFault FileTree := do
  let files ←
    match Path.parent? log with
    | some parent => files.createDirectories parent
    | none => pure files
  let size := (files.size? log).getD 0
  let files ← if 0 < size && sizeLimit < size + entry.length then rotate files log else pure files
  files.append log entry

/-- The files after a crash; they stay as they are if the entry cannot be written. -/
def record (files : FileTree) (outputDir : String) (c : Crash) : FileTree :=
  ((append files (path outputDir) (Utf8.encode c.entry.toList)).toOption).getD files

end CrashLog

end SuiteRunner
