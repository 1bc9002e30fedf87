import SuiteRunner.Report.Format
import SuiteRunner.Result.Summary

/-!
# The result sink

Cases that run at the same time hand their results to one sink, which keeps them in the places of their cases.

Main definitions:

* `Slot`, the place of a case: the number of its suite, and its number in the suite;
* `ResultSink`, with `ResultSink.ofSuites`, `start`, `forward`, `close` and `finish`;
* `Formatter.report` and `ResultSink.echo`, what is printed for a result;
* `SinkStep` and `SinkAnswer`, with `ResultSink.answer` and `ResultSink.apply`, what a sink answers to a step and what
  it is after it; `ResultSink.after`, what it is after any number of steps.

A closed sink takes no more results.  Results without a place are counted and printed, but not kept.
-/

namespace SuiteRunner

/-- The place of a case: the number of its suite, and its number in the suite. -/
structure Slot where
  suite : Nat
  case : Nat
  deriving DecidableEq, Repr

/-- The places of the cases of a suite. -/
structure SuiteSlots where
  suite : String
  className : String
  startedAt : Option Instant
  results : List (Option CaseResult)
  deriving DecidableEq, Repr

namespace SuiteSlots

/-- The empty places of a suite. -/
def ofSuite (s : Suite) : SuiteSlots := ⟨s.name, s.className, none, List.replicate s.cases.length none⟩

/-- The suite starts; the first start counts. -/
def start (s : SuiteSlots) (now : Instant) : SuiteSlots := { s with startedAt := s.startedAt <|> some now }

/-- A result in its place. -/
def record (s : SuiteSlots) (case : Nat) (r : CaseResult) : SuiteSlots :=
  { s with results := s.results.set case (some r) }

/-- The results that are there, in the order of the cases. -/
def recorded (s : SuiteSlots) : List CaseResult := s.results.filterMap id

/-- The summary of the results that are there; nothing if there are none. -/
def summary? (s : SuiteSlots) (now : Instant) : Option SuiteSummary :=
  if s.recorded.isEmpty then none
  else some (SuiteSummary.ofResults s.suite s.className (s.startedAt.getD now) s.recorded)

end SuiteSlots

/-- What is printed for a result that is the `number`-th of `total`: its line, and the lines of its failure. -/
def Formatter.report (f : Formatter) (r : CaseResult) (number total : Nat) : String :=
  f.progress r number total ++ "\n" ++
    (match f.failure? r with
    | some text => text ++ "\n"
    | none => "")

/-- The results of a run so far. -/
structure ResultSink where
  suites : List SuiteSlots
  /-- How many results were taken. -/
  completed : Nat
  closed : Bool
  deriving DecidableEq, Repr

namespace ResultSink

/-- A sink with a place for every case. -/
def ofSuites (suites : List Suite) : ResultSink := ⟨suites.map SuiteSlots.ofSuite, 0, false⟩

/-- The number of places. -/
def total (s : ResultSink) : Nat := Numeral.total (s.suites.map fun u => u.results.length)

/-- A suite starts. -/
def start (s : ResultSink) (suite : Nat) (now : Instant) : ResultSink :=
  { s with suites := s.suites.modify suite fun u => u.start now }

/-- Takes a result, unless the sink is closed. -/
def forward (s : ResultSink) (slot : Slot) (r : CaseResult) : ResultSink :=
  if s.closed then s
  else { s with
    suites := s.suites.modify slot.suite fun u => u.record slot.case r
    completed := s.completed + 1 }

/-- Takes no more results. -/
def close (s : ResultSink) : ResultSink := { s with closed := true }

/-- The summary of the results so far, in the order of the cases; suites without results are left out. -/
def finish (s : ResultSink) (interrupted : Bool) (now : Instant) : RunSummary :=
  RunSummary.ofSuites (s.suites.filterMap fun u => u.summary? now) interrupted

/-- What is printed when the sink takes a result. -/
def echo (s : ResultSink) (f : Formatter) (r : CaseResult) : String :=
  if s.closed then "" else f.report r (s.completed + 1) s.total

end ResultSink

/-! ### Steps -/

/-- What a sink can be asked to do. -/
inductive SinkStep where
  | start (suite : Nat) (now : Instant)
  | forward (slot : Slot) (result : CaseResult)
  | close
  | finish (interrupted : Bool) (now : Instant)
  deriving DecidableEq, Repr

/-- What a sink answers to a step. -/
inductive SinkAnswer where
  | started
  /-- Whether the result was taken, and what was printed for it. -/
  | forwarded (taken : Bool) (printed : String)
  | closed
  | finished (summary : RunSummary)
  deriving DecidableEq, Repr

namespace ResultSink

/-- The answer to a step; progress is printed if there is a formatter for it. -/
def answer (s : ResultSink) (progress : Option Formatter) : SinkStep → SinkAnswer
  | .start _ _ => .started
  | .forward _ r => .forwarded (!s.closed) (progress.elim "" fun f => s.echo f r)
  | .close => .closed
  | .finish interrupted now => .finished (s.finish interrupted now)

/-- The sink after a step. -/
def apply (s : ResultSink) : SinkStep → ResultSink
  | .start suite now => s.start suite now
  | .forward slot r => s.forward slot r
  | .close => s.close
  | .finish _ _ => s

/-- The sink after steps. -/
def after (s : ResultSink) (steps : List SinkStep) : ResultSink := steps.foldl apply s

end ResultSink

end SuiteRunner
