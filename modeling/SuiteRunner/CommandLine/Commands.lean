import SuiteRunner.CommandLine.Arguments
import SuiteRunner.Config.Layers
import SuiteRunner.Execution.Course
import SuiteRunner.LogLevel
import SuiteRunner.Report.Junit
import SuiteRunner.SimulatorConf
import SuiteRunner.Store
import SuiteRunner.Yaml.Printer

/-!
# The commands of the program

Main definitions:

* `CommandFault`, the reasons why a command fails, and `ExitStatus`;
* `Site`, where the program runs;
* `Work`, what a command does to files and prints;
* `Work.runCases`, `Work.listCases`, `Work.showReport`, `Work.showConfig`, `Work.writeExample` and
  `Work.listVariables`;
* `carryOut`, which carries out what is asked for, and `Reply`;
* `Invocation.logLevel`, the level at which the program logs meanwhile.

What was written and printed before a command fails stays.
-/

namespace SuiteRunner

/-! ### Ends -/

/-- The reasons why a command fails. -/
inductive CommandFault where
  | resolve (fault : ResolveFault)
  | config (fault : ConfigFault)
  | noDirectory (path : String) (fault : FileFault)
  | unknownFormat (name : String)
  | discovery (fault : DiscoveryFault)
  | install (path : String) (fault : SimulatorConf.LoadFault)
  | junit (fault : Junit.Fault)
  | store (fault : StoreFault)
  | noRuns (dir : String)
  | exampleExists (path : String)
  | settings (fault : SettingsFileFault)

/-- The message of a fault.  Where the record of the installation cannot be read, the cause stands in it twice. -/
def CommandFault.message : CommandFault → String
  | resolve f => f.message
  | config f => f.message
  | noDirectory p f => "Failed to create " ++ p ++ ": " ++ f.message
  | unknownFormat n => "Unknown output format: " ++ n
  | discovery f => f.message
  | install p f =>
    "Failed to load " ++ p ++ ": " ++ f.message ++
      (match f with
      | .unreadable _ cause => ": " ++ cause.message
      | .malformed _ => "")
  | junit f => f.message
  | store f => f.message
  | noRuns d => "No saved runs under " ++ d
  | exampleExists p => p ++ " already exists (use --force to overwrite)"
  | settings f => f.message

/-- How the program ends. -/
inductive ExitStatus where
  | success
  /-- Some case has failed. -/
  | failure
  /-- The command has failed. -/
  | refusal
  | interruption
  deriving DecidableEq, Repr

/-- The number of an exit status. -/
def ExitStatus.code : ExitStatus → Nat
  | success => 0
  | failure => 1
  | refusal => 2
  | interruption => 130

/-- The exit status for arguments that are refused; help and the version are shown with success. -/
def ExitStatus.ofUsage : UsageFault → ExitStatus
  | .displayHelp | .displayVersion => success
  | _ => refusal

/-- The exit status for a summary. -/
def ExitStatus.ofSummary (s : RunSummary) : ExitStatus := if s.isSuccess then success else failure

/-! ### Surroundings -/

/-- Where the program runs. -/
structure Site where
  environment : Environment
  machine : Machine
  /-- What happens next in a run. -/
  schedule : Schedule
  /-- The time after a number of turns of a run. -/
  clock : Nat → Instant
  platform : Platform
  host : String
  /-- Whether the output goes to a terminal. -/
  terminal : Bool

/-- How output of a format is written; it is colored on a terminal, unless a variable forbids it. -/
def Site.formatter (site : Site) (format : OutputFormat) : Formatter :=
  ⟨format, site.terminal && (site.environment.get? "NO_COLOR").isNone⟩

/-- What a command has to do with: the files, and what was printed. -/
structure Desk where
  files : FileTree
  printed : String

/-- What a command does. -/
abbrev Work := EStateM CommandFault Desk

namespace Work

/-- The value of a result; a fault makes the command fail. -/
def expect {ε α : Type} (fault : ε → CommandFault) : Except ε α → Work α
  | .ok a => pure a
  | .error e => throw (fault e)

/-- The files. -/
def files : Work FileTree := Desk.files <$> get

/-- Changes the files. -/
def setFiles (files : FileTree) : Work Unit := modify fun d => { d with files := files }

/-- Prints a text. -/
def put (text : String) : Work Unit := modify fun d => { d with printed := d.printed ++ text }

/-- Prints a text and ends the line. -/
def putLine (text : String) : Work Unit := put (text ++ "\n")

/-! ### Steps -/

/-- The configuration of all layers below the arguments. -/
def baseConfig (site : Site) (g : Globals) : Work Config := do
  expect .resolve (Config.resolve (← files) site.environment g.settingsFile g.profile)

/-- The format of a name. -/
def formatNamed (name : String) : Work OutputFormat :=
  match OutputFormat.ofName? name with
  | some format => pure format
  | none => throw (.unknownFormat name)

/-- Creates the output directory. -/
def createOutput (c : Config) : Work Unit := do
  setFiles (← expect (.noDirectory c.outputDir) ((← files).createDirectories c.outputDir))

/-- The suites that are asked for: those of the files that are named, or else those that are found. -/
def suitesOf (c : Config) (s : CaseSelection) : Work (List Suite) := do
  let given := if s.suiteFiles.isEmpty then none else some s.suiteFiles
  expect .discovery (discover (← files) ⟨c.searchPaths, c.testType, c.pattern⟩ given)

/-- The record of the installation in a file. -/
def loadInstall (path : String) : Work SimulatorConf := do
  expect (.install path) (SimulatorConf.load (← files) path)

/-- Where the record of the installation is. -/
def installPath? (site : Site) (c : Config) : Work (Option String) := do
  return SimulatorConf.locate? (← files) site.environment c.installFile

/-- The record of the installation, if there is one. -/
def installOf (site : Site) (c : Config) : Work (Option SimulatorConf) := do
  match ← installPath? site c with
  | none => pure none
  | some path => some <$> loadInstall path

/-- Writes the reports of a run. -/
def writeReports (site : Site) (dir : String) (run : RunSummary) : Work Unit := do
  let (_, written) ← expect .junit (Junit.writeAll dir site.host (← files) run)
  setFiles written

/-! ### Commands -/

/-- Runs cases with a configuration. -/
def runWith (site : Site) (c : Config) (r : RunRequest) : Work ExitStatus := do
  expect .config c.check
  let format ← formatNamed r.format
  createOutput c
  let suites ← suitesOf c r.selection
  let install ← installOf site c
  let formatter := site.formatter format
  let course : Course := {
    suites := suites
    runner := ⟨c, install⟩
    machine := site.machine
    schedule := site.schedule
    clock := site.clock
    progress := if format.showsProgress then some formatter else none }
  let last := course.run (← files)
  setFiles last.files
  put last.printed
  let summary := Course.State.summary course last
  let now := site.clock last.turns
  putLine (formatter.run summary)
  writeReports site c.reports summary
  let run : StoredRun := ⟨StoredRun.nameAt now 0, site.clock 0, now, summary, c, site.platform⟩
  let (_, saved) ← expect .store ((RunStore.ofOutput c.outputDir).save (← files) run)
  setFiles saved
  return if last.isInterrupted then .interruption else .ofSummary summary

/-- Runs cases. -/
def runCases (site : Site) (g : Globals) (r : RunRequest) : Work ExitStatus := do
  let c := r.applyTo (← baseConfig site g)
  createOutput c
  runWith site c r

/-- The listing of the cases of suites, with the reasons why they will be skipped. -/
def listingsOf (c : Config) (install : Option SimulatorConf) (suites : List Suite) : List Listing :=
  suites.flatMap fun s => s.cases.map fun case =>
    ⟨s.name, s.testType, case.name, case.model, (skipReason? c install s case).map SkipReason.message⟩

/-- Lists cases. -/
def listCases (site : Site) (g : Globals) (r : ListRequest) : Work ExitStatus := do
  let c := r.selection.applyTo (← baseConfig site g)
  let format ← formatNamed r.format
  let suites ← suitesOf c r.selection
  let install ← installOf site c
  putLine ((site.formatter format).listing (listingsOf c install suites))
  return .success

/-- The saved run that is asked for. -/
def savedRun (outputDir : String) (id : Option String) : Work StoredRun := do
  let store := RunStore.ofOutput outputDir
  match id with
  | some id => expect .store (store.load (← files) id)
  | none =>
    match ← expect .store (store.latest? (← files)) with
    | some run => pure run
    | none => throw (.noRuns outputDir)

/-- Shows a saved run, and writes its reports again. -/
def showReport (site : Site) (g : Globals) (r : ReportRequest) : Work ExitStatus := do
  let c ← baseConfig site g
  let format ← formatNamed r.format
  let run ← savedRun (r.outputDir.getD c.outputDir) r.runId
  putLine ((site.formatter format).run run.summary)
  writeReports site (r.reportDir.getD run.config.reports) run.summary
  return .ofSummary run.summary

/-- Shows the configuration and the installation. -/
def showConfig (site : Site) (g : Globals) : Work ExitStatus := do
  let c ← baseConfig site g
  put (Yaml.print c.toValue)
  match ← installPath? site c with
  | none => putLine "# sstsimulator.conf: not found"
  | some path =>
    let install ← loadInstall path
    putLine ("# sstsimulator.conf: " ++ path)
    if let some version := install.get? "SST_CORE".toList "VERSION".toList then
      putLine ("# SST core version: " ++ String.ofList version)
    putLine ("# sections: " ++ ", ".intercalate (install.sectionNames.map String.ofList))
  return .success

/-- Where the example of a settings file is written if no path is given. -/
def examplePath : String := "sst-test-engine.yaml"

/-- Writes an example of a settings file.  A file that is there is written over only by force. -/
def writeExample (path : Option String) (force : Bool) : Work ExitStatus := do
  let path := path.getD examplePath
  if (← files).exists? path && !force then throw (.exampleExists path)
  setFiles (← expect .settings (SettingsFile.example.save (← files) path))
  putLine ("Wrote example config to " ++ path)
  return .success

/-- What is said about the variables of the environment. -/
def variablesHelp : List String := [
  "Environment Variables:",
  "",
  "  SST_TEST_SST_PATH          Simulator binary (default: sst)",
  "  SST_TEST_MPIRUN            MPI launcher (default: mpirun)",
  "  SST_TEST_RANKS             MPI ranks per simulation",
  "  SST_TEST_THREADS           Threads per rank",
  "  SST_TEST_CONCURRENCY       Tests run concurrently",
  "  SST_TEST_TIMEOUT           Default per-test timeout in seconds",
  "  SST_TEST_TIMEOUT_OVERRIDE  Timeout applied to every test",
  "  SST_TEST_OUTPUT_DIR        Output directory",
  "  SST_TEST_SCENARIOS         Active scenarios (comma separated)",
  "  SST_TEST_CONFIG            Path to configuration file",
  "  SST_TEST_VERBOSE           Enable verbose output (true/false)",
  "  SST_CONFIG_FILE            Path to sstsimulator.conf",
  "",
  "Example:",
  "  export SST_TEST_CONCURRENCY=8",
  "  export SST_TEST_SCENARIOS=multi_rank,no_mpi",
  "  sst-test-engine run -p tests"]

/-- Lists the variables of the environment, and the values of those that are set. -/
def listVariables (site : Site) : Work ExitStatus := do
  variablesHelp.forM putLine
  let said := EnvSettings.ofEnvironment site.environment
  if said.isAny then
    putLine ""
    putLine "Environment Configuration:"
    said.summary.forM fun (name, value) => putLine ("  SST_TEST_" ++ name ++ value)
  return .success

/-- Does what is asked for. -/
def perform (site : Site) (i : Invocation) : Work ExitStatus :=
  match i.request with
  | .run r => runCases site i.globals r
  | .list r => listCases site i.globals r
  | .report r => showReport site i.globals r
  | .showConfig => showConfig site i.globals
  | .writeExample path force => writeExample path force
  | .listVariables => listVariables site

end Work

/-! ### The program -/

/-- The level at which the program logs.  The environment counts as one request to say more, if there is no other. -/
def Invocation.logLevel (i : Invocation) (said : EnvSettings) : LogLevel :=
  let verbose := if i.globals.verbose = 0 && said.verbose = some true then 1 else i.globals.verbose
  .ofVerbosity verbose i.globals.quiet

/-- What the program leaves behind. -/
structure Reply where
  printed : String
  files : FileTree
  fault : Option CommandFault
  status : ExitStatus

/-- Carries out what is asked for. -/
def carryOut (site : Site) (files : FileTree) (i : Invocation) : Reply :=
  match (Work.perform site i).run ⟨files, ""⟩ with
  | .ok status d => ⟨d.printed, d.files, none, status⟩
  | .error fault d => ⟨d.printed, d.files, some fault, .refusal⟩

end SuiteRunner
