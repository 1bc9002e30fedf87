import SuiteRunner.Config.Document
import SuiteRunner.Environment
import SuiteRunner.Text.Quoted

/-!
# Layers of the configuration

The configuration is made of layers: the default values, the settings file, the profile that is chosen, and the
environment.  The later ones lie above the earlier ones.

Main definitions:

* `EnvSettings`, what the environment says, with `EnvSettings.ofEnvironment`, `applyTo` and `summary`;
* `Config.resolve`, with `ResolveFault`.
-/

namespace SuiteRunner

open Numeral

/-! ### The environment -/

/-- What the environment says. -/
structure EnvSettings where
  simulator : Option String
  launcher : Option String
  ranks : Option Nat
  threads : Option Nat
  concurrency : Option Nat
  timeoutSecs : Option Nat
  timeoutOverride : Option Nat
  outputDir : Option String
  scenarios : Option (List String)
  settingsFile : Option String
  verbose : Option Bool
  deriving DecidableEq, Repr

namespace EnvSettings

/-- The words that switch something on. -/
def switchWords : List String := ["1", "true", "yes", "on", "enabled"]

/-- Holds for a word that switches something on, in letters of either case. -/
def isOn (s : String) : Bool := switchWords.contains (String.ofList (s.toList.map Yaml.lowerAscii))

/-- The texts between commas, without the white space at their ends; empty ones do not count. -/
def splitList (s : String) : List String :=
  ((Text.splitOn ',' s.toList).map Text.trim).filterMap fun t => if t.isEmpty then none else some (String.ofList t)

/-- The value of a variable of the program; a blank value counts as none. -/
def value? (e : Environment) (name : String) : Option String :=
  (e.get? ("SST_TEST_" ++ name)).filter fun v => !Text.isBlank v.toList

/-- The number in a variable; anything else counts as none. -/
def number? (e : Environment) (max : Nat) (name : String) : Option Nat :=
  (value? e name).bind fun v => natUpTo? 10 max (Text.trim v.toList)

/-- Reads the environment. -/
def ofEnvironment (e : Environment) : EnvSettings where
  simulator := value? e "SST_PATH"
  launcher := value? e "MPIRUN"
  ranks := number? e max32 "RANKS"
  threads := number? e max32 "THREADS"
  concurrency := number? e max64 "CONCURRENCY"
  timeoutSecs := number? e max64 "TIMEOUT"
  timeoutOverride := number? e max64 "TIMEOUT_OVERRIDE"
  outputDir := value? e "OUTPUT_DIR"
  scenarios := (value? e "SCENARIOS").map splitList
  settingsFile := value? e "CONFIG"
  verbose := (value? e "VERBOSE").map isOn

/-- Holds when the environment says anything. -/
def isAny (e : EnvSettings) : Bool :=
  e.simulator.isSome || e.launcher.isSome || e.ranks.isSome || e.threads.isSome || e.concurrency.isSome ||
    e.timeoutSecs.isSome || e.timeoutOverride.isSome || e.outputDir.isSome || e.scenarios.isSome ||
    e.settingsFile.isSome || e.verbose.isSome

/-- The configuration with the environment laid over it. -/
def applyTo (e : EnvSettings) (c : Config) : Config :=
  { c with
    simulator := e.simulator.getD c.simulator
    launcher := e.launcher.getD c.launcher
    ranks := e.ranks.getD c.ranks
    threads := e.threads.getD c.threads
    concurrency := e.concurrency.getD c.concurrency
    timeoutSecs := e.timeoutSecs.getD c.timeoutSecs
    timeoutOverride := e.timeoutOverride <|> c.timeoutOverride
    outputDir := e.outputDir.getD c.outputDir }.activate (e.scenarios.getD [])

/-- A value that may be missing, as the summary shows it. -/
def showOption {α : Type} (render : α → String) : Option α → String
  | none => "None"
  | some a => "Some(" ++ render a ++ ")"

/-- A list of texts, as the summary shows it. -/
def showTexts (items : List String) : String := "[" ++ ", ".intercalate (items.map Text.debugText) ++ "]"

/-- The variables with their values. -/
def summary (e : EnvSettings) : List (String × String) := [
  ("SST_PATH:          ", showOption Text.debugText e.simulator),
  ("MPIRUN:            ", showOption Text.debugText e.launcher),
  ("RANKS:             ", showOption toString e.ranks),
  ("THREADS:           ", showOption toString e.threads),
  ("CONCURRENCY:       ", showOption toString e.concurrency),
  ("TIMEOUT:           ", showOption toString e.timeoutSecs),
  ("TIMEOUT_OVERRIDE:  ", showOption toString e.timeoutOverride),
  ("OUTPUT_DIR:        ", showOption Text.debugPath e.outputDir),
  ("SCENARIOS:         ", showOption showTexts e.scenarios),
  ("CONFIG:            ", showOption Text.debugPath e.settingsFile),
  ("VERBOSE:           ", showOption (fun b => if b then "true" else "false") e.verbose)]

end EnvSettings

/-! ### Resolution -/

/-- Where a settings file is looked for, the first place first. -/
def settingsPlaces : List String := [
  "./sst-test-engine.yaml", "./sst-test-engine.yml", "./.sst-test-engine.yaml",
  "~/.config/sst-test-engine/config.yaml"]

/-- The settings file that is there without being named. -/
def findSettings? (files : FileTree) (env : Environment) : Option String :=
  (settingsPlaces.map (Path.expandHome env.home?)).find? files.exists?

/-- The ways in which no configuration comes about. -/
inductive ResolveFault where
  | file (fault : SettingsFileFault)
  | unknownProfile (name : String)
  | noFileForProfile (name : String)
  deriving DecidableEq, Repr

/-- The message of a fault. -/
def ResolveFault.message : ResolveFault → String
  | file f => f.message
  | unknownProfile n => "Unknown profile: " ++ n
  | noFileForProfile n => "Profile '" ++ n ++ "' requested but no config file was found"

namespace Config

/-- The configuration below the environment: the default values, the settings file if there is one, and a
profile. -/
def fromFile (file : Option SettingsFile) (profile : Option String) : Except ResolveFault Config :=
  match file, profile with
  | none, none => .ok standard
  | none, some name => .error (.noFileForProfile name)
  | some f, none => .ok (f.engine.applyTo standard)
  | some f, some name =>
    match f.profile? name with
    | none => .error (.unknownProfile name)
    | some p => .ok (p.applyTo (f.engine.applyTo standard))

/-- The configuration of all layers.  The settings file is the one that is given, or else the one that the
environment names, or else the one that is found. -/
def resolve (files : FileTree) (env : Environment) (given profile : Option String) : Except ResolveFault Config := do
  let said := EnvSettings.ofEnvironment env
  let file ←
    match given <|> said.settingsFile <|> findSettings? files env with
    | none => pure none
    | some path =>
      match SettingsFile.load files path with
      | .error f => throw (.file f)
      | .ok f => pure (some f)
  return said.applyTo (← fromFile file profile)

end Config

end SuiteRunner
