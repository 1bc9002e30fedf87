import SuiteRunner.Compare.Comparison
import SuiteRunner.Path

/-!
# Test suites

A suite is a list of test cases with defaults that they share.  A case describes one run of the simulator and how its
output is judged.

Main definitions:

* `CaseDefaults`, `TestCase` and `Suite`;
* the settings of a case in its suite: `timeoutOf`, `modeOf`, `filtersOf`, `maxRanksOf`, `maxThreadsOf` and
  `elementsOf`.  What the case says itself comes before the defaults.
-/

namespace SuiteRunner

/-- What the cases of a suite share. -/
structure CaseDefaults where
  timeoutSecs : Option Nat
  mode : Option CompareMode
  filters : List Filter
  maxRanks : Option Nat
  maxThreads : Option Nat
  deriving DecidableEq, Repr

/-- No defaults. -/
def CaseDefaults.none : CaseDefaults := ⟨Option.none, Option.none, [], Option.none, Option.none⟩

/-- One run of the simulator, and how its output is judged. -/
structure TestCase where
  name : String
  /-- The model file, as it is handed to the simulator. -/
  model : String
  args : List String
  modelOptions : Option String
  /-- The file with the expected output, seen from the directory of the suite. -/
  reference : Option String
  mode : Option CompareMode
  filters : List Filter
  /-- Texts that the output has to contain. -/
  expectContains : List String
  timeoutSecs : Option Nat
  expectExitCode : Int
  /-- Why the case is not to be run at all. -/
  skip : Option String
  skipOnScenarios : List String
  maxRanks : Option Nat
  maxThreads : Option Nat
  requiresElements : List String
  deriving DecidableEq, Repr

namespace TestCase

/-- A case with a name and a model, and nothing else. -/
def plain (name model : String) : TestCase :=
  ⟨name, model, [], none, none, none, [], [], none, 0, none, [], none, none, []⟩

/-- The case as messages show it. -/
def display (c : TestCase) : String := c.name ++ " [" ++ c.model ++ "]"

end TestCase

/-- A list of cases from one file. -/
structure Suite where
  name : String
  /-- The name in reports, if it is not the name of the suite. -/
  reportName : Option String
  requiresElements : List String
  defaults : CaseDefaults
  cases : List TestCase
  /-- The file that the suite comes from. -/
  path : String
  /-- What kind of suite it is, by the name of its file. -/
  testType : String
  deriving DecidableEq, Repr

namespace Suite

/-- The directory of the suite file, which models and references are relative to. -/
def dir (s : Suite) : String :=
  match Path.parent? s.path with
  | none | some "" => "."
  | some p => p

/-- The name in reports. -/
def className (s : Suite) : String := s.reportName.getD s.name

/-- The suite as messages show it. -/
def display (s : Suite) : String := s.name ++ " (" ++ toString s.cases.length ++ " tests)"

/-- The time limit of a case in seconds. -/
def timeoutOf (s : Suite) (c : TestCase) : Option Nat := c.timeoutSecs <|> s.defaults.timeoutSecs

/-- The filters of a case: those of the suite run first. -/
def filtersOf (s : Suite) (c : TestCase) : List Filter := s.defaults.filters ++ c.filters

/-- How the output of a case is compared.  If nothing says so, a reference is compared as it is, or filtered where
there are filters. -/
def modeOf (s : Suite) (c : TestCase) : CompareMode :=
  match c.mode <|> s.defaults.mode with
  | some mode => mode
  | none =>
    match c.reference with
    | none => .none
    | some _ => if (s.filtersOf c).isEmpty then .exact else .filtered

/-- The greatest number of ranks that a case can run with. -/
def maxRanksOf (s : Suite) (c : TestCase) : Option Nat := c.maxRanks <|> s.defaults.maxRanks

/-- The greatest number of threads that a case can run with. -/
def maxThreadsOf (s : Suite) (c : TestCase) : Option Nat := c.maxThreads <|> s.defaults.maxThreads

/-- The elements that a case needs: those of the suite come first. -/
def elementsOf (s : Suite) (c : TestCase) : List String := s.requiresElements ++ c.requiresElements

end Suite

end SuiteRunner
