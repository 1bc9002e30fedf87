import SuiteRunner.CommandLine.Grammar
import SuiteRunner.Config.Basic
import SuiteRunner.Suite.Discovery

/-!
# The arguments of the program

Main definitions:

* `CommandLine.grammar`, the grammar of the arguments;
* `Globals`, the options that every command has, and `Request`, what is asked for;
* `Invocation.ofArguments`, which reads arguments;
* `CaseSelection.applyTo` and `RunRequest.applyTo`, which lay arguments over a configuration.

The options of `Globals` may stand at every level, before the name of the command and after it.  Of the levels that
give one of them, the deepest counts.
-/

namespace SuiteRunner

/-! ### The grammar -/

namespace CommandLine

/-- The name of the program. -/
def programName : String := "sst-test-engine"

/-- The version of the program. -/
def version : String := "0.1.0"

/-- Ranks and threads. -/
def rankKind : ValueKind := .number true Numeral.max32

/-- Seconds, and the number of cases that run at once. -/
def amountKind : ValueKind := .number false Numeral.max64

/-- The options of every command. -/
def globalOptions : List OptionSpec := [
  ⟨"verbose", some 'v', .count⟩,
  ⟨"quiet", some 'q', .flag⟩,
  ⟨"config", none, .set .path⟩,
  ⟨"profile", none, .set .text⟩,
  ⟨"help", some 'h', .help⟩]

/-- The pair of options that cannot be given together, of those that every command has. -/
def globalConflicts : List (String × String) := [("quiet", "verbose")]

/-- The option for the format of what is printed. -/
def formatOption : OptionSpec := ⟨"format", some 'f', .set .text⟩

/-- The option for the output directory. -/
def outputOption : OptionSpec := ⟨"output", some 'o', .set .path⟩

/-- The option for the directory of the reports. -/
def reportDirOption : OptionSpec := ⟨"junit-dir", none, .set .path⟩

/-- The suite files that are named. -/
def suiteFiles : PositionalSpec := ⟨"suite_files", .path, true⟩

/-- The options that select cases. -/
def selectionOptions : List OptionSpec := [
  ⟨"path", some 'p', .append .path⟩,
  ⟨"filter", some 'w', .set .text⟩,
  ⟨"type", none, .set .text⟩,
  ⟨"all", none, .flag⟩,
  ⟨"scenario", some 's', .append .text⟩,
  ⟨"ranks", some 'r', .set rankKind⟩,
  ⟨"threads", some 't', .set rankKind⟩,
  ⟨"sst-conf", none, .set .path⟩]

/-- The options that say how cases are run. -/
def executionOptions : List OptionSpec := [
  ⟨"concurrency", some 'c', .set amountKind⟩,
  ⟨"timeout", none, .set amountKind⟩,
  ⟨"sst", none, .set .text⟩,
  ⟨"mpirun", none, .set .text⟩,
  ⟨"oversubscribe", none, .flag⟩,
  outputOption,
  reportDirOption,
  ⟨"keep-outputs", some 'k', .flag⟩,
  ⟨"fail-fast", none, .flag⟩]

/-- A command without subcommands. -/
def command (name : String) (options : List OptionSpec) (positional : Option PositionalSpec)
    (conflicts : List (String × String)) : CommandSpec :=
  ⟨name, options ++ globalOptions, positional, [], conflicts ++ globalConflicts⟩

/-- The command that shows help. -/
def helpCommand : CommandSpec := ⟨CommandSpec.helpName, [], none, [], []⟩

/-- The command that runs cases. -/
def runCommandSpec : CommandSpec :=
  command "run" (selectionOptions ++ executionOptions ++ [formatOption]) (some suiteFiles) [("type", "all")]

/-- The command that lists cases. -/
def listCommandSpec : CommandSpec :=
  command "list" (selectionOptions ++ [formatOption]) (some suiteFiles) [("type", "all")]

/-- The command that shows a saved run. -/
def reportCommandSpec : CommandSpec :=
  command "report" [⟨"run", none, .set .text⟩, outputOption, reportDirOption, formatOption] none []

/-- The command for the configuration. -/
def configCommandSpec : CommandSpec where
  name := "config"
  options := globalOptions
  positional := none
  subcommands := [
    command "show" [] none [],
    command "init" [⟨"force", none, .flag⟩] (some ⟨"path", .path, false⟩) [],
    command "env" [] none [],
    helpCommand]
  conflicts := globalConflicts

/-- The grammar of the arguments of the program. -/
def grammar : CommandSpec where
  name := programName
  options := globalOptions ++ [⟨"version", some 'V', .version⟩]
  positional := none
  subcommands := [runCommandSpec, listCommandSpec, reportCommandSpec, configCommandSpec, helpCommand]
  conflicts := globalConflicts

end CommandLine

/-! ### What is asked for -/

/-- The options that every command has. -/
structure Globals where
  /-- How often more was asked to be logged. -/
  verbose : Nat
  quiet : Bool
  settingsFile : Option String
  profile : Option String
  deriving DecidableEq, Repr

/-- Which cases are asked for, and on what they run. -/
structure CaseSelection where
  suiteFiles : List String
  searchPaths : List String
  pattern : Option String
  testType : Option String
  scenarios : List String
  ranks : Option Nat
  threads : Option Nat
  installFile : Option String
  deriving DecidableEq, Repr

/-- A request to run cases. -/
structure RunRequest where
  selection : CaseSelection
  concurrency : Option Nat
  timeoutOverride : Option Nat
  simulator : Option String
  launcher : Option String
  oversubscribe : Bool
  outputDir : Option String
  reportDir : Option String
  keepOutputs : Bool
  failFast : Bool
  format : String
  deriving DecidableEq, Repr

/-- A request to list cases. -/
structure ListRequest where
  selection : CaseSelection
  format : String
  deriving DecidableEq, Repr

/-- A request to show a saved run, the latest one if none is named. -/
structure ReportRequest where
  runId : Option String
  outputDir : Option String
  reportDir : Option String
  format : String
  deriving DecidableEq, Repr

/-- What is asked for. -/
inductive Request where
  | run (request : RunRequest)
  | list (request : ListRequest)
  | report (request : ReportRequest)
  | showConfig
  /-- To write an example of a settings file. -/
  | writeExample (path : Option String) (force : Bool)
  | listVariables
  deriving DecidableEq, Repr

/-- The arguments of the program. -/
structure Invocation where
  globals : Globals
  request : Request
  deriving DecidableEq, Repr

/-! ### Reading -/

/-- The number that is the last value of an option. -/
def Matches.number? (m : Matches) (kind : ValueKind) (name : String) : Option Nat := (m.value? name).bind kind.number?

/-- The format that is asked for, a table if there is none. -/
def Matches.format (m : Matches) : String := (m.value? "format").getD "table"

/-- What the deepest of the levels that give an option says about it. -/
def deepest? (levels : List (String × Matches)) (name : String) : Option (List String) :=
  levels.reverse.findSome? fun (_, m) => m.entries.lookup name

/-- The options that every command has, from all levels of the arguments; occurrences are counted up to 255. -/
def Globals.ofLevels (levels : List (String × Matches)) : Globals where
  verbose := min 255 ((deepest? levels "verbose").getD []).length
  quiet := (deepest? levels "quiet").isSome
  settingsFile := (deepest? levels "config").bind List.getLast?
  profile := (deepest? levels "profile").bind List.getLast?

/-- Which cases are asked for. -/
def CaseSelection.ofMatches (m : Matches) : CaseSelection where
  suiteFiles := m.values "suite_files"
  searchPaths := m.values "path"
  pattern := m.value? "filter"
  testType := if m.has "all" then some allTypes else m.value? "type"
  scenarios := m.values "scenario"
  ranks := m.number? CommandLine.rankKind "ranks"
  threads := m.number? CommandLine.rankKind "threads"
  installFile := m.value? "sst-conf"

/-- A request to run cases. -/
def RunRequest.ofMatches (m : Matches) : RunRequest where
  selection := .ofMatches m
  concurrency := m.number? CommandLine.amountKind "concurrency"
  timeoutOverride := m.number? CommandLine.amountKind "timeout"
  simulator := m.value? "sst"
  launcher := m.value? "mpirun"
  oversubscribe := m.has "oversubscribe"
  outputDir := m.value? "output"
  reportDir := m.value? "junit-dir"
  keepOutputs := m.has "keep-outputs"
  failFast := m.has "fail-fast"
  format := m.format

/-- A request to show a saved run. -/
def ReportRequest.ofMatches (m : Matches) : ReportRequest :=
  ⟨m.value? "run", m.value? "output", m.value? "junit-dir", m.format⟩

/-- What is asked for by the commands below the program. -/
def Request.ofLevels? : List (String × Matches) → Option Request
  | [("run", m)] => some (.run (.ofMatches m))
  | [("list", m)] => some (.list ⟨.ofMatches m, m.format⟩)
  | [("report", m)] => some (.report (.ofMatches m))
  | [("config", _), ("show", _)] => some .showConfig
  | [("config", _), ("init", m)] => some (.writeExample (m.value? "path") (m.has "force"))
  | [("config", _), ("env", _)] => some .listVariables
  | _ => none

/-- Reads the arguments of the program. -/
def Invocation.ofArguments (args : List String) : Except UsageFault Invocation :=
  match CommandLine.grammar.parse args with
  | .error f => .error f
  | .ok levels =>
    match Request.ofLevels? (levels.drop 1) with
    | some request => .ok ⟨.ofLevels levels, request⟩
    | none => .error .missingSubcommand

/-! ### The configuration -/

/-- The configuration with a selection laid over it.  Search paths take the place of those that were there;
scenarios are added, even those that are active already. -/
def CaseSelection.applyTo (s : CaseSelection) (c : Config) : Config :=
  { c with
    searchPaths := if s.searchPaths.isEmpty then c.searchPaths else s.searchPaths
    pattern := s.pattern <|> c.pattern
    testType := s.testType.getD c.testType
    scenarios := c.scenarios ++ s.scenarios
    ranks := s.ranks.getD c.ranks
    threads := s.threads.getD c.threads
    installFile := s.installFile <|> c.installFile }

/-- The configuration with a request laid over it.  Switches are only ever switched on. -/
def RunRequest.applyTo (r : RunRequest) (c : Config) : Config :=
  let c := r.selection.applyTo c
  { c with
    concurrency := r.concurrency.getD c.concurrency
    timeoutOverride := r.timeoutOverride <|> c.timeoutOverride
    simulator := r.simulator.getD c.simulator
    launcher := r.launcher.getD c.launcher
    oversubscribe := c.oversubscribe || r.oversubscribe
    outputDir := r.outputDir.getD c.outputDir
    reportDir := r.reportDir <|> c.reportDir
    keepOutputs := c.keepOutputs || r.keepOutputs
    failFast := c.failFast || r.failFast }

/-- The configuration that a request is carried out with. -/
def Request.applyTo (r : Request) (c : Config) : Config :=
  match r with
  | run request => request.applyTo c
  | list request => request.selection.applyTo c
  | report _ | showConfig | writeExample _ _ | listVariables => c

end SuiteRunner
