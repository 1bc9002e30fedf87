import SuiteRunner.FileTree
import SuiteRunner.Process.Outcome
import SuiteRunner.Result.Basic

/-!
# Verdicts

A verdict says what a finished process means for its case.  The checks are made in a fixed order, and the first one
that fails decides: the time limit, the exit code, the comparison with the reference, the texts that the output has to
contain.

Main definitions:

* `Verdict` with `Verdict.message`;
* `judge`, the verdict on a process;
* `Verdict.result`, the result of the case.
-/

namespace SuiteRunner

/-- What a finished process means for its case. -/
inductive Verdict where
  | passed
  | timedOut (seconds : Nat)
  | wrongEnd (outcome : Outcome) (expected : Int)
  /-- The captured output is not there any more. -/
  | noOutput (path : String) (fault : FileFault)
  /-- There is nothing to compare the output with. -/
  | noReference (mode : CompareMode)
  | unreadableReference (path : String) (fault : FileFault)
  | badFilter (report : String)
  | differs (comparison : Comparison)
  /-- A text is missing in the output. -/
  | lacks (text : String)

namespace Verdict

/-- The message of a verdict. -/
def message : Verdict → Option String
  | passed => none
  | timedOut seconds => some ("timed out after " ++ toString seconds ++ "s")
  | wrongEnd outcome expected => some (outcome.describe ++ " (expected " ++ toString expected ++ ")")
  | noOutput path fault => some ("Failed to read " ++ path ++ ": " ++ fault.message)
  | noReference mode => some ("compare mode " ++ mode.title ++ " requires a reference file")
  | unreadableReference path fault => some ("cannot read reference " ++ path ++ ": " ++ fault.message)
  | badFilter report => some report
  | differs c => some ("output differs from reference in " ++ toString c.total ++ " lines (" ++
      toString c.expectedLines ++ " expected, " ++ toString c.actualLines ++ " actual)")
  | lacks text => some ("output does not contain '" ++ text ++ "'")

/-- The status of the case. -/
def status : Verdict → Status
  | passed => .pass
  | timedOut _ | wrongEnd .. | differs _ | lacks _ => .fail
  | noOutput .. | noReference _ | unreadableReference .. | badFilter _ => .error

/-- The listing of the differences. -/
def details : Verdict → Option String
  | differs c => some c.render
  | _ => none

/-- Holds when the result names the captures; `keep` says whether those of a passing case are kept. -/
def namesCaptures (keep : Bool) : Verdict → Bool
  | passed => keep
  | noOutput .. | badFilter _ => false
  | _ => true

/-- Holds when the time limit was exceeded. -/
def isTimeout : Verdict → Bool
  | timedOut _ => true
  | _ => false

/-- The result of a case. -/
def result (v : Verdict) (s : Suite) (c : TestCase) (capture : Capture) (keep : Bool) : CaseResult :=
  { CaseResult.of s c v.status with
    message := v.message
    details := v.details
    stdoutPath := if v.namesCaptures keep then some capture.stdout else none
    stderrPath := if v.namesCaptures keep then some capture.stderr else none
    timedOut := v.isTimeout }

end Verdict

/-! ### Checks -/

/-- The filters of a comparison; only one mode has any. -/
def filtersFor (mode : CompareMode) (s : Suite) (c : TestCase) : Except FilterError FilterSet :=
  match mode with
  | .filtered => FilterSet.compile (s.filtersOf c)
  | _ => .ok []

/-- Compares the output with the reference; nothing if the comparison holds. -/
def checkReference (files : FileTree) (s : Suite) (c : TestCase) (actual : List Char) : Option Verdict :=
  let mode := s.modeOf c
  if mode = .none then none
  else
    match c.reference with
    | none => some (.noReference mode)
    | some reference =>
      let path := Path.join s.dir reference
      match files.readBytes path with
      | .error fault => some (.unreadableReference path fault)
      | .ok bytes =>
        match filtersFor mode s c with
        | .error e => some (.badFilter e.message)
        | .ok filters =>
          let comparison := compareTexts mode filters actual (Utf8.decodeLossy bytes)
          if comparison.holds then none else some (.differs comparison)

/-- Looks for the texts that the output has to contain; nothing if all are there. -/
def checkContains (c : TestCase) (actual : List Char) : Option Verdict :=
  (c.expectContains.find? fun t => !Text.contains actual t.toList).map .lacks

/-- The verdict on a process that was started with a time limit in seconds. -/
def judge (files : FileTree) (s : Suite) (c : TestCase) (capture : Capture) (timeoutSecs : Nat) (outcome : Outcome) :
    Verdict :=
  if outcome.timedOut then .timedOut timeoutSecs
  else if outcome.exitCode ≠ some c.expectExitCode then .wrongEnd outcome c.expectExitCode
  else
    match files.readBytes capture.stdout with
    | .error fault => .noOutput capture.stdout fault
    | .ok bytes =>
      let actual := Utf8.decodeLossy bytes
      (checkReference files s c actual <|> checkContains c actual).getD .passed

end SuiteRunner
