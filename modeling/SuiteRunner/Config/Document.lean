import SuiteRunner.Config.Settings
import SuiteRunner.Suite.Reader
import SuiteRunner.Yaml.Reader
import SuiteRunner.Yaml.Printer
import SuiteRunner.Json.Reader

/-!
# Configurations in documents

Main definitions:

* `Config.toValue` and `Config.ofNode?`;
* `SettingsFile.toValue` and `SettingsFile.ofNode?`;
* `SettingsFile.load` and `SettingsFile.save`, with `SettingsFileFault`.
-/

namespace SuiteRunner

open Numeral

/-! ### Configurations -/

namespace Config

/-- The names of the fields of a configuration. -/
def fields : List String := [
  "sst_path", "mpirun_path", "mpi_oversubscribe", "ranks", "threads", "concurrency", "timeout_secs",
  "timeout_override", "scenarios", "output_dir", "junit_dir", "keep_outputs", "fail_fast", "test_filter",
  "test_type", "search_paths", "sst_conf"]

/-- The document of a configuration. -/
def toValue (c : Config) : Value := .object [
  ("sst_path", .text c.simulator),
  ("mpirun_path", .text c.launcher),
  ("mpi_oversubscribe", .bool c.oversubscribe),
  ("ranks", .nat c.ranks),
  ("threads", .nat c.threads),
  ("concurrency", .nat c.concurrency),
  ("timeout_secs", .nat c.timeoutSecs),
  ("timeout_override", .natOrNull c.timeoutOverride),
  ("scenarios", .texts c.scenarios),
  ("output_dir", .text c.outputDir),
  ("junit_dir", .textOrNull c.reportDir),
  ("keep_outputs", .bool c.keepOutputs),
  ("fail_fast", .bool c.failFast),
  ("test_filter", .textOrNull c.pattern),
  ("test_type", .text c.testType),
  ("search_paths", .texts c.searchPaths),
  ("sst_conf", .textOrNull c.installFile)]

/-- Reads a configuration; only what may be null may be missing. -/
def ofNode? (n : Node) : Option Config := do
  let r ← Record.ofNode? fields n
  return {
    simulator := ← r.required "sst_path" Node.text?
    launcher := ← r.required "mpirun_path" Node.text?
    oversubscribe := ← r.required "mpi_oversubscribe" Node.bool?
    ranks := ← r.required "ranks" readNat32?
    threads := ← r.required "threads" readNat32?
    concurrency := ← r.required "concurrency" readNat64?
    timeoutSecs := ← r.required "timeout_secs" readNat64?
    timeoutOverride := ← r.nullable "timeout_override" readNat64?
    scenarios := ← r.required "scenarios" readTexts?
    outputDir := ← r.required "output_dir" Node.text?
    reportDir := ← r.nullable "junit_dir" Node.text?
    keepOutputs := ← r.required "keep_outputs" Node.bool?
    failFast := ← r.required "fail_fast" Node.bool?
    pattern := ← r.nullable "test_filter" Node.text?
    testType := ← r.required "test_type" Node.text?
    searchPaths := ← r.required "search_paths" readTexts?
    installFile := ← r.nullable "sst_conf" Node.text? }

end Config

/-! ### Settings -/

namespace Settings

/-- The names of settings. -/
def fields : List String := [
  "sst_path", "mpirun_path", "mpi_oversubscribe", "ranks", "threads", "concurrency", "timeout_secs", "output_dir",
  "junit_dir", "keep_outputs", "fail_fast", "test_type", "search_paths", "sst_conf"]

/-- The settings that are there. -/
def members (s : Settings) : List (String × Value) := Value.present [
  ("sst_path", s.simulator.map .text),
  ("mpirun_path", s.launcher.map .text),
  ("mpi_oversubscribe", s.oversubscribe.map .bool),
  ("ranks", s.ranks.map .nat),
  ("threads", s.threads.map .nat),
  ("concurrency", s.concurrency.map .nat),
  ("timeout_secs", s.timeoutSecs.map .nat),
  ("output_dir", s.outputDir.map .text),
  ("junit_dir", s.reportDir.map .text),
  ("keep_outputs", s.keepOutputs.map .bool),
  ("fail_fast", s.failFast.map .bool),
  ("test_type", s.testType.map .text),
  ("search_paths", s.searchPaths.map .texts),
  ("sst_conf", s.installFile.map .text)]

/-- Reads settings from a record; null stands for a setting that is not there. -/
def ofRecord? (r : Record) : Option Settings := do
  return {
    simulator := ← r.optional "sst_path" Node.text?
    launcher := ← r.optional "mpirun_path" Node.text?
    oversubscribe := ← r.optional "mpi_oversubscribe" Node.bool?
    ranks := ← r.optional "ranks" readNat32?
    threads := ← r.optional "threads" readNat32?
    concurrency := ← r.optional "concurrency" readNat64?
    timeoutSecs := ← r.optional "timeout_secs" readNat64?
    outputDir := ← r.optional "output_dir" Node.text?
    reportDir := ← r.optional "junit_dir" Node.text?
    keepOutputs := ← r.optional "keep_outputs" Node.bool?
    failFast := ← r.optional "fail_fast" Node.bool?
    testType := ← r.optional "test_type" Node.text?
    searchPaths := ← r.optional "search_paths" readTexts?
    installFile := ← r.optional "sst_conf" Node.text? }

/-- Reads settings. -/
def ofNode? (n : Node) : Option Settings := (Record.ofNode? fields n).bind ofRecord?

end Settings

namespace Profile

/-- The names of the fields of a profile that are not settings. -/
def fields : List String := ["name", "description", "scenarios"]

/-- The document of a profile: its settings stand beside its name. -/
def toValue (p : Profile) : Value := .object
  ([("name", .text p.name), ("description", .text p.description), ("scenarios", .texts p.scenarios)] ++
    p.settings.members)

/-- Reads a profile.  Its settings stand beside its name, so they have the types that they have by themselves;
lists and maps in them nest `depth` levels at most. -/
def ofNode? (depth : Nat) (n : Node) : Option Profile := do
  match n with
  | .map entries =>
    let all ← Record.fieldsOf? entries
    let own := all.filter fun f => fields.contains f.1
    let others ← (all.filter fun f => !fields.contains f.1).mapM fun (k, v) => do return (k, ← v.untyped? depth)
    if !Record.isUnambiguous fields own || !Record.isUnambiguous Settings.fields others then none
    let r := Record.named own
    return {
      name := ← r.required "name" Node.text?
      description := ← r.withDefault "description" "" Node.text?
      scenarios := ← r.withDefault "scenarios" [] readTexts?
      settings := ← Settings.ofRecord? (.named others) }
  | _ => none

end Profile

/-! ### Files -/

/-- Holds for the path of a YAML file. -/
def isYamlPath (path : String) : Bool :=
  Path.extension? path = some "yaml" || Path.extension? path = some "yml"

/-- The ways in which a settings file cannot be loaded or saved. -/
inductive SettingsFileFault where
  | unreadable (path : String) (fault : FileFault)
  | malformed (path : String)
  | invalid (fault : SettingsFault)
  | noDirectory (path : String) (fault : FileFault)
  | unwritable (path : String) (fault : FileFault)
  deriving DecidableEq, Repr

/-- The message of a fault. -/
def SettingsFileFault.message : SettingsFileFault → String
  | unreadable p f => "Failed to read config file: " ++ p ++ ": " ++ f.message
  | malformed p =>
    (if isYamlPath p then "Failed to parse YAML config: " else "Failed to parse JSON config: ") ++ p ++
      ": no settings"
  | invalid f => f.message
  | noDirectory p f => "Failed to create directory: " ++ p ++ ": " ++ f.message
  | unwritable p f => "Failed to write config file: " ++ p ++ ": " ++ f.message

namespace SettingsFile

/-- The document of a settings file. -/
def toValue (f : SettingsFile) : Value := .object [
  ("version", .text f.version),
  ("engine", .object f.engine.members),
  ("profiles", .list (f.profiles.map Profile.toValue))]

/-- Reads a settings file; lists and maps in the settings of a profile nest `depth` levels at most. -/
def ofNode? (depth : Nat) (n : Node) : Option SettingsFile := do
  let r ← Record.ofNode? ["version", "engine", "profiles"] n
  return {
    version := ← r.withDefault "version" currentVersion Node.text?
    engine := ← r.withDefault "engine" Settings.none Settings.ofNode?
    profiles := ← r.withDefault "profiles" [] (Node.list? (Profile.ofNode? depth)) }

/-- Reads the text of a settings file, in the format that its path calls for. -/
def ofText? (path : String) (text : List Char) : Option SettingsFile :=
  if isYamlPath path then (Yaml.read? text).bind (ofNode? 125) else (Json.read? text).bind (ofNode? 124)

/-- The text of a settings file, in the format that its path calls for. -/
def print (path : String) (f : SettingsFile) : String :=
  if isYamlPath path then Yaml.print f.toValue else Json.pretty f.toValue

/-- Loads and checks a settings file. -/
def load (files : FileTree) (path : String) : Except SettingsFileFault SettingsFile :=
  match files.readText path with
  | .error f => .error (.unreadable path f)
  | .ok text =>
    match ofText? path text with
    | none => .error (.malformed path)
    | some f => (f.check.map fun _ => f).mapError .invalid

/-- Saves a settings file, and creates the directory in which it stands. -/
def save (files : FileTree) (path : String) (f : SettingsFile) : Except SettingsFileFault FileTree := do
  let dir := (Path.parent? path).getD ""
  let files ← (files.createDirectories dir).mapError (.noDirectory dir)
  (files.write path (Utf8.encode (print path f).toList)).mapError (.unwritable path)

end SettingsFile

end SuiteRunner
