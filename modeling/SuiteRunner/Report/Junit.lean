import SuiteRunner.FileName
import SuiteRunner.FileTree
import SuiteRunner.Report.Xml
import SuiteRunner.Result.Summary

/-!
# JUnit reports

One document per suite, with the captured outputs of its cases.

Main definitions:

* `Junit.suiteElement` and `Junit.render`;
* `Junit.writeAll`, which writes the documents of a run, with `Junit.Fault`.
-/

namespace SuiteRunner.Junit

/-- How many bytes of a captured output are reported: those at its end. -/
def captureLimit : Nat := 65536

/-- The end of a captured output, if it can be read and is not empty. -/
def captured? (files : FileTree) (path : Option String) : Option String :=
  match path.map files.readBytes with
  | some (.ok bytes) =>
    if bytes.isEmpty then none
    else some (String.ofList (Utf8.decodeLossy (bytes.drop (bytes.length - captureLimit))))
  | _ => none

/-- A number of milliseconds in seconds. -/
def seconds (ms : Nat) : String := ((Double.ofNat ms).div (Double.ofNat 1000)).fixed 3

/-- The element that says how a case ended, unless it passed. -/
def outcome (r : CaseResult) : List Xml :=
  let message := ("message", r.message.getD "")
  match r.status with
  | .pass => []
  | .skip => [.leaf "skipped" [message] none]
  | .error => [.leaf "error" [message, ("type", "error")] r.details]
  | .fail => [.leaf "failure" [message, ("type", if r.timedOut then "timeout" else "failure")] r.details]

/-- The element of a captured output, if there is one. -/
def capture (files : FileTree) (name : String) (path : Option String) : List Xml :=
  match captured? files path with
  | some text => [.leaf name [] (some text)]
  | none => []

/-- The element of a case. -/
def caseElement (files : FileTree) (r : CaseResult) : Xml :=
  let attributes := [("name", r.name), ("classname", r.className), ("time", seconds r.durationMs)]
  match outcome r ++ capture files "system-out" r.stdoutPath ++ capture files "system-err" r.stderrPath with
  | [] => .leaf "testcase" attributes none
  | children => .branch "testcase" attributes children

/-- The element of a suite. -/
def suiteElement (files : FileTree) (host : String) (s : SuiteSummary) : Xml :=
  .branch "testsuite" [
    ("name", s.suite),
    ("tests", toString s.counts.total),
    ("failures", toString s.counts.failed),
    ("errors", toString s.counts.errors),
    ("skipped", toString s.counts.skipped),
    ("time", seconds s.counts.durationMs),
    ("timestamp", s.startedAt.secondsText),
    ("hostname", host)] (s.results.map (caseElement files))

/-- The document of a suite. -/
def render (files : FileTree) (host : String) (s : SuiteSummary) : String :=
  Xml.document (.branch "testsuites" [] [suiteElement files host s])

/-! ### Files -/

/-- The ways in which reports cannot be written. -/
inductive Fault where
  | noDirectory (path : String) (fault : FileFault)
  | unwritable (path : String) (fault : FileFault)
  deriving DecidableEq, Repr

/-- The message of a fault. -/
def Fault.message : Fault → String
  | noDirectory p f => "Failed to create " ++ p ++ ": " ++ f.message
  | unwritable p f => "Failed to write " ++ p ++ ": " ++ f.message

/-- The path of the document of a suite. -/
def path (dir suite : String) : String := Path.join dir (fileSafe suite ++ ".xml")

/-- Writes the documents of suites one after another, and gives their paths. -/
def writeEach (dir host : String) (files : FileTree) :
    List SuiteSummary → Except Fault (List String × FileTree)
  | [] => .ok ([], files)
  | s :: rest => do
    let p := path dir s.suite
    let files ← (files.write p (Utf8.encode (render files host s).toList)).mapError (.unwritable p)
    let (paths, files) ← writeEach dir host files rest
    return (p :: paths, files)

/-- Writes the documents of a run into a directory, and gives their paths. -/
def writeAll (dir host : String) (files : FileTree) (run : RunSummary) :
    Except Fault (List String × FileTree) := do
  let files ← (files.createDirectories dir).mapError (.noDirectory dir)
  writeEach dir host files run.suites

end SuiteRunner.Junit
