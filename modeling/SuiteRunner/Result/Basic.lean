import SuiteRunner.Suite.Basic

/-!
# Results of cases

Main definitions:

* `Status`, how a case ended;
* `CaseResult`, with the results `pass`, `fail`, `skip` and `error` of a case, and `CaseResult.withDuration`.
-/

namespace SuiteRunner

/-- How a case ended. -/
inductive Status where
  | pass
  | fail
  | skip
  | error
  deriving DecidableEq, Repr

namespace Status

/-- The name in documents. -/
def name : Status → String
  | pass => "pass"
  | fail => "fail"
  | skip => "skip"
  | error => "error"

/-- The status of a name. -/
def ofName? : String → Option Status
  | "pass" => some pass
  | "fail" => some fail
  | "skip" => some skip
  | "error" => some error
  | _ => none

theorem ofName?_name (s : Status) : ofName? s.name = some s := by
  cases s <;> rfl

/-- The word that people are shown. -/
def word : Status → String
  | pass => "PASS"
  | fail => "FAIL"
  | skip => "SKIP"
  | error => "ERROR"

/-- The sign that people are shown. -/
def symbol : Status → String
  | pass => "✓"
  | fail => "✗"
  | skip => "○"
  | error => "!"

/-- Holds for what counts against a run. -/
def isFailure : Status → Bool
  | fail | error => true
  | pass | skip => false

end Status

/-- The result of a case. -/
structure CaseResult where
  suite : String
  className : String
  name : String
  status : Status
  durationMs : Nat
  message : Option String
  /-- More lines on a failure, such as the differences of the output. -/
  details : Option String
  stdoutPath : Option String
  stderrPath : Option String
  timedOut : Bool
  deriving DecidableEq, Repr

namespace CaseResult

/-- A result without anything to say. -/
def plain (suite className name : String) (status : Status) : CaseResult :=
  ⟨suite, className, name, status, 0, none, none, none, none, false⟩

/-- A result of a case without anything to say. -/
def of (s : Suite) (c : TestCase) (status : Status) : CaseResult := plain s.name s.className c.name status

/-- A case has passed. -/
def pass (s : Suite) (c : TestCase) : CaseResult := of s c .pass

/-- A case has failed. -/
def fail (s : Suite) (c : TestCase) (message : String) : CaseResult :=
  { of s c .fail with message := some message }

/-- A case was not run. -/
def skip (s : Suite) (c : TestCase) (reason : String) : CaseResult := { of s c .skip with message := some reason }

/-- A case could not be judged. -/
def error (s : Suite) (c : TestCase) (message : String) : CaseResult :=
  { of s c .error with message := some message }

/-- The result of a case that took a number of milliseconds, which is kept in 64 bits. -/
def withDuration (r : CaseResult) (elapsedMs : Nat) : CaseResult :=
  { r with durationMs := elapsedMs % Numeral.size64 }

/-- A result without its duration. -/
def untimed (r : CaseResult) : CaseResult := { r with durationMs := 0 }

/-- The names of suite and case. -/
def qualifiedName (r : CaseResult) : String := r.suite ++ "." ++ r.name

/-- The result on one line. -/
def display (r : CaseResult) : String :=
  r.status.symbol ++ " " ++ r.qualifiedName ++ " [" ++ toString r.durationMs ++ "ms]" ++
    (match r.message with
    | some m => " - " ++ m
    | none => "")

end CaseResult

end SuiteRunner
