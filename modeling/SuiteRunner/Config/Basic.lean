import SuiteRunner.Path
import SuiteRunner.Text.Line

/-!
# The configuration

Everything that discovery, execution and reporting have to know.

Main definitions:

* `Config` with its default values `Config.standard`;
* `Config.reports`, the directory of the reports, and `Config.timeoutFor`, the time limit of a case;
* `Config.check`, with `ConfigFault`, the settings with which nothing can run.
-/

namespace SuiteRunner

/-- The settings of a run. -/
structure Config where
  /-- The simulator. -/
  simulator : String
  /-- The program that starts the simulator on several ranks. -/
  launcher : String
  /-- Whether the launcher may start more ranks than there are processors. -/
  oversubscribe : Bool
  ranks : Nat
  threads : Nat
  /-- How many cases may run at once. -/
  concurrency : Nat
  /-- The time limit of a case that names none. -/
  timeoutSecs : Nat
  /-- The time limit of every case, whatever it says. -/
  timeoutOverride : Option Nat
  /-- The scenarios that are active. -/
  scenarios : List String
  outputDir : String
  /-- The directory of the reports, if it is not inside of the output directory. -/
  reportDir : Option String
  /-- Whether the outputs of passing cases are kept. -/
  keepOutputs : Bool
  /-- Whether no case is started after the first failure. -/
  failFast : Bool
  /-- The pattern that selects cases. -/
  pattern : Option String
  /-- The type of the suites that are selected. -/
  testType : String
  searchPaths : List String
  /-- The file with the record of the simulator installation. -/
  installFile : Option String
  deriving DecidableEq, Repr

/-- The settings with which nothing can run. -/
inductive ConfigFault where
  | noConcurrency
  | noRanks
  | noTime
  | noSimulator
  deriving DecidableEq, Repr

/-- The message of a fault. -/
def ConfigFault.message : ConfigFault → String
  | noConcurrency => "Concurrency must be at least 1"
  | noRanks => "Ranks and threads must be at least 1"
  | noTime => "Timeouts must be at least 1 second"
  | noSimulator => "Simulator path is empty"

namespace Config

/-- The default values. -/
def standard : Config where
  simulator := "sst"
  launcher := "mpirun"
  oversubscribe := false
  ranks := 1
  threads := 1
  concurrency := 1
  timeoutSecs := 60
  timeoutOverride := none
  scenarios := []
  outputDir := "./test_outputs"
  reportDir := none
  keepOutputs := false
  failFast := false
  pattern := none
  testType := "default"
  searchPaths := ["."]
  installFile := none

/-- The directory of the reports. -/
def reports (c : Config) : String := c.reportDir.getD (Path.join c.outputDir "test_xml_out")

/-- The time limit of a case that has the limit `own`. -/
def timeoutFor (c : Config) (own : Option Nat) : Nat := (c.timeoutOverride <|> own).getD c.timeoutSecs

/-- Holds when a scenario is active. -/
def isActive (c : Config) (scenario : String) : Bool := c.scenarios.contains scenario

/-- Adds a scenario that is not active yet. -/
def addScenario (scenarios : List String) (s : String) : List String :=
  if scenarios.contains s then scenarios else scenarios ++ [s]

/-- Activates scenarios. -/
def activate (c : Config) (scenarios : List String) : Config :=
  { c with scenarios := scenarios.foldl addScenario c.scenarios }

/-- Checks that something can run. -/
def check (c : Config) : Except ConfigFault Unit :=
  if c.concurrency = 0 then .error .noConcurrency
  else if c.ranks = 0 || c.threads = 0 then .error .noRanks
  else if c.timeoutOverride = some 0 || c.timeoutSecs = 0 then .error .noTime
  else if Text.isBlank c.simulator.toList then .error .noSimulator
  else .ok ()

end Config

end SuiteRunner
