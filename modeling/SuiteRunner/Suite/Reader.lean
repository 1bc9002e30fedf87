import SuiteRunner.Suite.Basic
import SuiteRunner.Document.Node

/-!
# Suites in documents

Reads suites, cases and filters from a document.  Unknown fields do not count; a record may also be written as a list
of its fields in order.

Main definitions:

* `Filter.ofNode?`, `TestCase.ofNode?` and `Suite.ofNode?`.
-/

namespace SuiteRunner

open Numeral

/-- Reads a text. -/
def readTexts? (n : Node) : Option (List String) := n.list? Node.text?

/-- Reads a number of 64 bits. -/
def readNat64? (n : Node) : Option Nat := n.nat? max64

/-- Reads a number of 32 bits. -/
def readNat32? (n : Node) : Option Nat := n.nat? max32

/-- Reads a mode. -/
def CompareMode.ofNode? (n : Node) : Option CompareMode :=
  (n.unitVariant? ["exact", "sorted", "filtered", "none"]).bind CompareMode.ofName?

namespace Filter

/-- The names of filters in documents. -/
def names : List String :=
  ["starts_with", "contains", "ignore_all_after", "remove_regex", "replace", "check_first_line"]

/-- Reads a filter: its name with what it needs. -/
def ofNode? (n : Node) : Option Filter := do
  let (name, content) ← n.variant? names
  let content ← content
  match name with
  | "starts_with" => return .startsWith (← content.text?)
  | "contains" => return .contains (← content.text?)
  | "ignore_all_after" => return .ignoreAllAfter (← content.text?)
  | "remove_regex" => return .removeRegex (← content.text?)
  | "replace" =>
    let r ← Record.ofNode? ["from", "to"] content
    return .replace (← r.required "from" Node.text?) (← r.required "to" Node.text?)
  | _ => return .checkFirstLine (← content.text?)

end Filter

/-- The names of the defaults of a suite. -/
def CaseDefaults.fields : List String := ["timeout_secs", "compare", "filters", "max_ranks", "max_threads"]

/-- Reads the defaults of a suite. -/
def CaseDefaults.ofNode? (n : Node) : Option CaseDefaults := do
  let r ← Record.ofNode? fields n
  return {
    timeoutSecs := ← r.optional "timeout_secs" readNat64?
    mode := ← r.optional "compare" CompareMode.ofNode?
    filters := ← r.withDefault "filters" [] (Node.list? Filter.ofNode?)
    maxRanks := ← r.optional "max_ranks" readNat32?
    maxThreads := ← r.optional "max_threads" readNat32? }

/-- The names of the fields of a case. -/
def TestCase.fields : List String :=
  ["name", "model", "args", "model_options", "reference", "compare", "filters", "expect_contains", "timeout_secs",
    "expect_exit_code", "skip", "skip_on_scenarios", "max_ranks", "max_threads", "requires_elements"]

/-- Reads a case. -/
def TestCase.ofNode? (n : Node) : Option TestCase := do
  let r ← Record.ofNode? fields n
  return {
    name := ← r.required "name" Node.text?
    model := ← r.required "model" Node.text?
    args := ← r.withDefault "args" [] readTexts?
    modelOptions := ← r.optional "model_options" Node.text?
    reference := ← r.optional "reference" Node.text?
    mode := ← r.optional "compare" CompareMode.ofNode?
    filters := ← r.withDefault "filters" [] (Node.list? Filter.ofNode?)
    expectContains := ← r.withDefault "expect_contains" [] readTexts?
    timeoutSecs := ← r.optional "timeout_secs" readNat64?
    expectExitCode := ← r.withDefault "expect_exit_code" 0 (Node.int? (-2147483648) 2147483647)
    skip := ← r.optional "skip" Node.text?
    skipOnScenarios := ← r.withDefault "skip_on_scenarios" [] readTexts?
    maxRanks := ← r.optional "max_ranks" readNat32?
    maxThreads := ← r.optional "max_threads" readNat32?
    requiresElements := ← r.withDefault "requires_elements" [] readTexts? }

/-- The names of the fields of a suite. -/
def Suite.fields : List String := ["name", "class_name", "requires_elements", "defaults", "tests"]

/-- Reads a suite, which has no file and no type yet. -/
def Suite.ofNode? (n : Node) : Option Suite := do
  let r ← Record.ofNode? fields n
  return {
    name := ← r.withDefault "name" "" Node.text?
    reportName := ← r.optional "class_name" Node.text?
    requiresElements := ← r.withDefault "requires_elements" [] readTexts?
    defaults := ← r.withDefault "defaults" CaseDefaults.none CaseDefaults.ofNode?
    cases := ← r.required "tests" (Node.list? TestCase.ofNode?)
    path := ""
    testType := "" }

end SuiteRunner
