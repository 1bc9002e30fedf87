import SuiteRunner.Instant
import SuiteRunner.Result.Basic
import SuiteRunner.Text.Double

/-!
# Summaries

Main definitions:

* `Counts`, how many cases ended in which way, with `Counts.ofResults` and `Counts.add`;
* `SuiteSummary` and `RunSummary`, with `SuiteSummary.ofResults` and `RunSummary.ofSuites`;
* `Counts.passRate`, the percentage of the cases that passed among those that were not skipped.
-/

namespace SuiteRunner

/-! ### Counts -/

/-- The sum of two durations, which wraps at 64 bits. -/
def addDurations (a b : Nat) : Nat := (a + b) % Numeral.size64

/-- How many cases ended in which way, and how long they took together. -/
structure Counts where
  total : Nat
  passed : Nat
  failed : Nat
  skipped : Nat
  errors : Nat
  durationMs : Nat
  deriving DecidableEq, Repr

namespace Counts

/-- No cases. -/
def zero : Counts := ⟨0, 0, 0, 0, 0, 0⟩

/-- The counts of two runs together. -/
def add (a b : Counts) : Counts :=
  ⟨a.total + b.total, a.passed + b.passed, a.failed + b.failed, a.skipped + b.skipped, a.errors + b.errors,
    addDurations a.durationMs b.durationMs⟩

/-- The number of results with a status. -/
def withStatus (status : Status) (results : List CaseResult) : Nat :=
  (results.filter fun r => r.status == status).length

/-- The counts of results. -/
def ofResults (results : List CaseResult) : Counts where
  total := results.length
  passed := withStatus .pass results
  failed := withStatus .fail results
  skipped := withStatus .skip results
  errors := withStatus .error results
  durationMs := (results.map CaseResult.durationMs).foldr addDurations 0

/-- The number of cases that were not skipped; it wraps at 64 bits where more were skipped than there are. -/
def ran (c : Counts) : Nat := if c.skipped ≤ c.total then c.total - c.skipped else Numeral.size64 + c.total - c.skipped

/-- The percentage of the cases that passed among those that were not skipped. -/
def passRate (c : Counts) : Double :=
  if c.ran = 0 then .zero else ((Double.ofNat c.passed).div (Double.ofNat c.ran)).mulNat 100

/-- Holds when nothing counts against the run. -/
def isClean (c : Counts) : Bool := c.failed == 0 && c.errors == 0

end Counts

/-! ### Suites and runs -/

/-- The results of a suite, in the order of its cases. -/
structure SuiteSummary where
  suite : String
  className : String
  startedAt : Instant
  counts : Counts
  results : List CaseResult
  deriving DecidableEq, Repr

/-- The summary of results. -/
def SuiteSummary.ofResults (suite className : String) (startedAt : Instant) (results : List CaseResult) :
    SuiteSummary :=
  ⟨suite, className, startedAt, Counts.ofResults results, results⟩

/-- Holds when no case of the suite failed. -/
def SuiteSummary.isSuccess (s : SuiteSummary) : Bool := s.counts.isClean

/-- The results of a run. -/
structure RunSummary where
  suites : List SuiteSummary
  counts : Counts
  /-- Whether the run was interrupted. -/
  interrupted : Bool
  deriving DecidableEq, Repr

namespace RunSummary

/-- The summary of suites. -/
def ofSuites (suites : List SuiteSummary) (interrupted : Bool) : RunSummary :=
  ⟨suites, suites.foldr (fun s c => s.counts.add c) .zero, interrupted⟩

/-- Holds when the run came to its end and no case failed. -/
def isSuccess (r : RunSummary) : Bool := !r.interrupted && r.counts.isClean

/-- The results that count against the run. -/
def failures (r : RunSummary) : List CaseResult :=
  (r.suites.flatMap SuiteSummary.results).filter (·.status.isFailure)

end RunSummary

end SuiteRunner
