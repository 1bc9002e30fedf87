import SuiteRunner.Json.Printer
import SuiteRunner.Result.Document

/-!
# Output for people

Progress lines, failures, the summary of a run, and listings of cases, as tables, JSON or one line, with colors or
without.

Main definitions:

* `OutputFormat` and `Formatter`;
* `Formatter.progress`, `Formatter.failure?`, `Formatter.run` and `Formatter.listing`.
-/

namespace SuiteRunner

open Numeral

/-! ### Formats -/

/-- The formats of output. -/
inductive OutputFormat where
  | table
  | json
  | jsonPretty
  | summary
  deriving DecidableEq, Repr

namespace OutputFormat

/-- A letter in lower case. -/
def lower (c : Char) : Char := if 'A' ≤ c && c ≤ 'Z' then Char.ofNat (c.toNat + 32) else c

/-- The format of a name, in letters of either case. -/
def ofName? (s : String) : Option OutputFormat :=
  match String.ofList (s.toList.map lower) with
  | "table" => some table
  | "json" => some json
  | "json-pretty" | "jsonpretty" => some jsonPretty
  | "summary" => some summary
  | _ => none

/-- Holds for formats with a line for every case as it ends. -/
def showsProgress : OutputFormat → Bool
  | table | summary => true
  | json | jsonPretty => false

end OutputFormat

/-- A case in a listing. -/
structure Listing where
  suite : String
  testType : String
  name : String
  model : String
  /-- Why the case will not run. -/
  skip : Option String
  deriving DecidableEq, Repr

/-- The document of a listed case. -/
def Listing.toValue (l : Listing) : Value := .object [
  ("suite", .text l.suite), ("test_type", .text l.testType), ("name", .text l.name), ("model", .text l.model),
  ("skip", .textOrNull l.skip)]

/-- How output is written. -/
structure Formatter where
  format : OutputFormat
  colored : Bool
  deriving DecidableEq, Repr

/-- The colors. -/
inductive Color where
  | red
  | green
  | yellow
  deriving DecidableEq, Repr

/-- The code of a color on a terminal. -/
def Color.code : Color → String
  | red => "31"
  | green => "32"
  | yellow => "33"

namespace Formatter

/-- A text in a color. -/
def paint (f : Formatter) (color : Color) (text : String) : String :=
  if f.colored then "\x1b[" ++ color.code ++ "m" ++ text ++ "\x1b[0m" else text

/-- The color of a status. -/
def statusColor : Status → Color
  | .pass => .green
  | .fail | .error => .red
  | .skip => .yellow

/-- The sign and the word of a status. -/
def label (f : Formatter) (s : Status) : String := f.paint (statusColor s) (s.symbol ++ " " ++ s.word)

/-! ### Results -/

/-- A message after a dash, if there is one. -/
def after (message : Option String) : String :=
  match message with
  | some m => " - " ++ m
  | none => ""

/-- The line for a case that has ended, as number `done` of `total`. -/
def progress (f : Formatter) (r : CaseResult) (done total : Nat) : String :=
  "[" ++ padLeft ' ' (toString total).length (toString done) ++ "/" ++ toString total ++ "] " ++ f.label r.status ++
    " " ++ r.qualifiedName ++ " (" ++ toString r.durationMs ++ "ms)" ++
    (if r.status = .pass then "" else after r.message)

/-- A line of the details of a failure, in the color of its side. -/
def detailLine (f : Formatter) (l : List Char) : String :=
  "    " ++ (match l with
    | '-' :: _ => f.paint .red (String.ofList l)
    | '+' :: _ => f.paint .green (String.ofList l)
    | _ => String.ofList l) ++ "\n"

/-- A line with the path of a captured output. -/
def pathLine (name : String) (path : Option String) : String :=
  match path with
  | some p => "    " ++ name ++ ": " ++ p ++ "\n"
  | none => ""

/-- The lines under a case that has failed. -/
def failure? (f : Formatter) (r : CaseResult) : Option String :=
  if !r.status.isFailure || f.format = .summary then none
  else
    let details := match r.details with
      | some d => String.join ((Text.lines d.toList).map f.detailLine)
      | none => ""
    let text := details ++ pathLine "stdout" r.stdoutPath ++ pathLine "stderr" r.stderrPath
    if text.isEmpty then none else some (String.ofList (Text.trimEnd text.toList))

/-! ### Runs -/

/-- The text cut to a number of characters; an ellipsis stands for what is cut off. -/
def truncate (max : Nat) (s : String) : String :=
  if s.length ≤ max then s else String.ofList (s.toList.take (max - 1)) ++ "…"

/-- A percentage with one place. -/
def percent (x : Double) : String := x.fixed 1

/-- A number in a column of a table. -/
def cell (n : Nat) : String := padLeft ' ' 5 (toString n)

/-- The row of a suite in the table. -/
def row (f : Formatter) (s : SuiteSummary) : String :=
  let name := padRight 32 (truncate 32 s.suite)
  let c := s.counts
  "│ " ++ (if s.isSuccess then name else f.paint .red name) ++ " │ " ++ cell c.total ++ " │ " ++ cell c.passed ++
    " │ " ++ cell c.failed ++ " │ " ++ cell c.skipped ++ " │ " ++ cell c.errors ++ " │ " ++
    padLeft ' ' 5 (percent c.passRate) ++ "% │ " ++ padLeft ' ' 8 (toString c.durationMs) ++ "ms │\n"

/-- The lines above the rows of the table. -/
def tableTop : String :=
  "\n┌──────────────────────────────────┬───────┬───────┬───────┬───────┬───────┬────────┬────────────┐\n" ++
  "│ Suite                            │ Total │ Pass  │ Fail  │ Skip  │ Error │ Rate   │ Duration   │\n" ++
  "├──────────────────────────────────┼───────┼───────┼───────┼───────┼───────┼────────┼────────────┤\n"

/-- The line below the rows of the table. -/
def tableBottom : String :=
  "└──────────────────────────────────┴───────┴───────┴───────┴───────┴───────┴────────┴────────────┘\n"

/-- A failed case in the list after the table. -/
def failedLine (f : Formatter) (r : CaseResult) : String :=
  "  " ++ f.label r.status ++ " " ++ r.qualifiedName ++ after r.message ++ "\n"

/-- The list of the failed cases, if there are any. -/
def failedList (f : Formatter) (failures : List CaseResult) : String :=
  if failures.isEmpty then "" else "\nFailed tests:\n" ++ String.join (failures.map f.failedLine)

/-- What became of a run, in a word. -/
def verdict (f : Formatter) (s : RunSummary) : String :=
  if s.interrupted then f.paint .yellow "INTERRUPTED"
  else if s.isSuccess then f.paint .green "PASSED"
  else f.paint .red "FAILED"

/-- What became of a run, on one line. -/
def runLine (f : Formatter) (s : RunSummary) : String :=
  let c := s.counts
  f.verdict s ++ ": " ++ toString c.total ++ " tests, " ++ toString c.passed ++ " passed, " ++ toString c.failed ++
    " failed, " ++ toString c.errors ++ " errors, " ++ toString c.skipped ++ " skipped (" ++ percent c.passRate ++
    "%) in " ++ toString c.durationMs ++ "ms"

/-- The table of a run, with the list of its failures. -/
def runTable (f : Formatter) (s : RunSummary) : String :=
  tableTop ++ String.join (s.suites.map f.row) ++ tableBottom ++ f.failedList s.failures ++ "\n" ++ f.runLine s ++
    "\n"

/-- The summary of a run. -/
def run (f : Formatter) (s : RunSummary) : String :=
  match f.format with
  | .table => f.runTable s
  | .json => Json.compact s.toValue
  | .jsonPretty => Json.pretty s.toValue
  | .summary => f.runLine s

/-! ### Listings -/

/-- A listed case on a line. -/
def listingLine (f : Formatter) (l : Listing) : String :=
  match l.skip with
  | some reason => "  " ++ f.paint .yellow "○" ++ " " ++ l.name ++ " (" ++ reason ++ ")\n"
  | none => "  - " ++ l.name ++ " [" ++ l.model ++ "]\n"

/-- The lines of listed cases; a line with the suite stands before each run of cases of one suite. -/
def listingLines (f : Formatter) (current : Option String) : List Listing → String
  | [] => ""
  | l :: ls =>
    (if current = some l.suite then "" else l.suite ++ " [" ++ l.testType ++ "]\n") ++ f.listingLine l ++
      f.listingLines (some l.suite) ls

/-- A listing of cases. -/
def listing (f : Formatter) (cases : List Listing) : String :=
  match f.format with
  | .json => Json.compact (.list (cases.map Listing.toValue))
  | .jsonPretty => Json.pretty (.list (cases.map Listing.toValue))
  | .table | .summary => f.listingLines none cases ++ "\n" ++ toString cases.length ++ " tests\n"

end Formatter

end SuiteRunner
