import SuiteRunner.Document.Value
import SuiteRunner.Result.Summary
import SuiteRunner.Suite.Reader

/-!
# Results in documents

Main definitions:

* `toValue` and `ofNode?` for `CaseResult`, `SuiteSummary` and `RunSummary`.
-/

namespace SuiteRunner

/-- Reads a point in time. -/
def readInstant? (n : Node) : Option Instant := n.text?.bind Instant.ofText?

/-- Reads a status. -/
def Status.ofNode? (n : Node) : Option Status :=
  (n.unitVariant? ["pass", "fail", "skip", "error"]).bind Status.ofName?

namespace CaseResult

/-- The document of a result. -/
def toValue (r : CaseResult) : Value := .object [
  ("suite", .text r.suite),
  ("class_name", .text r.className),
  ("name", .text r.name),
  ("status", .text r.status.name),
  ("duration_ms", .nat r.durationMs),
  ("message", .textOrNull r.message),
  ("details", .textOrNull r.details),
  ("stdout_path", .textOrNull r.stdoutPath),
  ("stderr_path", .textOrNull r.stderrPath),
  ("timed_out", .bool r.timedOut)]

/-- Reads a result. -/
def ofNode? (n : Node) : Option CaseResult := do
  let r ← Record.ofNode? ["suite", "class_name", "name", "status", "duration_ms", "message", "details",
    "stdout_path", "stderr_path", "timed_out"] n
  return {
    suite := ← r.required "suite" Node.text?
    className := ← r.required "class_name" Node.text?
    name := ← r.required "name" Node.text?
    status := ← r.required "status" Status.ofNode?
    durationMs := ← r.required "duration_ms" readNat64?
    message := ← r.nullable "message" Node.text?
    details := ← r.nullable "details" Node.text?
    stdoutPath := ← r.nullable "stdout_path" Node.text?
    stderrPath := ← r.nullable "stderr_path" Node.text?
    timedOut := ← r.withDefault "timed_out" false Node.bool? }

end CaseResult

namespace Counts

/-- The members of the document of a summary that hold its counts. -/
def members (c : Counts) : List (String × Value) := [
  ("total", .nat c.total), ("passed", .nat c.passed), ("failed", .nat c.failed), ("skipped", .nat c.skipped),
  ("errors", .nat c.errors), ("total_duration_ms", .nat c.durationMs)]

/-- The names of the counts. -/
def fields : List String := ["total", "passed", "failed", "skipped", "errors", "total_duration_ms"]

/-- Reads counts. -/
def ofRecord? (r : Record) : Option Counts := do
  return {
    total := ← r.required "total" readNat64?
    passed := ← r.required "passed" readNat64?
    failed := ← r.required "failed" readNat64?
    skipped := ← r.required "skipped" readNat64?
    errors := ← r.required "errors" readNat64?
    durationMs := ← r.required "total_duration_ms" readNat64? }

end Counts

namespace SuiteSummary

/-- The document of the summary of a suite. -/
def toValue (s : SuiteSummary) : Value := .object
  ([("suite", .text s.suite), ("class_name", .text s.className), ("started_at", .text s.startedAt.text)] ++
    s.counts.members ++ [("results", .list (s.results.map CaseResult.toValue))])

/-- Reads the summary of a suite. -/
def ofNode? (n : Node) : Option SuiteSummary := do
  let r ← Record.ofNode? (["suite", "class_name", "started_at"] ++ Counts.fields ++ ["results"]) n
  return {
    suite := ← r.required "suite" Node.text?
    className := ← r.required "class_name" Node.text?
    startedAt := ← r.required "started_at" readInstant?
    counts := ← Counts.ofRecord? r
    results := ← r.required "results" (Node.list? CaseResult.ofNode?) }

end SuiteSummary

namespace RunSummary

/-- The document of the summary of a run. -/
def toValue (s : RunSummary) : Value := .object
  ([("suites", .list (s.suites.map SuiteSummary.toValue))] ++ s.counts.members ++
    [("interrupted", .bool s.interrupted)])

/-- Reads the summary of a run. -/
def ofNode? (n : Node) : Option RunSummary := do
  let r ← Record.ofNode? (["suites"] ++ Counts.fields ++ ["interrupted"]) n
  return {
    suites := ← r.required "suites" (Node.list? SuiteSummary.ofNode?)
    counts := ← Counts.ofRecord? r
    interrupted := ← r.required "interrupted" Node.bool? }

end RunSummary

end SuiteRunner
