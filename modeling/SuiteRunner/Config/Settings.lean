import SuiteRunner.Config.Basic
import SuiteRunner.FileTree

/-!
# Settings from a file

A file has settings for every run, and profiles that can be chosen by name.  A setting that is not there leaves the
one below it as it is.

Main definitions:

* `Settings`, `Profile` and `SettingsFile`, with `Settings.applyTo` and `Profile.applyTo`;
* `SettingsFile.check`, with `SettingsFault`;
* `SettingsFile.example`, a file to start from.
-/

namespace SuiteRunner

/-- Settings that may be there or not. -/
structure Settings where
  simulator : Option String
  launcher : Option String
  oversubscribe : Option Bool
  ranks : Option Nat
  threads : Option Nat
  concurrency : Option Nat
  timeoutSecs : Option Nat
  outputDir : Option String
  reportDir : Option String
  keepOutputs : Option Bool
  failFast : Option Bool
  testType : Option String
  searchPaths : Option (List String)
  installFile : Option String
  deriving DecidableEq, Repr

namespace Settings

/-- No settings. -/
def none : Settings where
  simulator := .none
  launcher := .none
  oversubscribe := .none
  ranks := .none
  threads := .none
  concurrency := .none
  timeoutSecs := .none
  outputDir := .none
  reportDir := .none
  keepOutputs := .none
  failFast := .none
  testType := .none
  searchPaths := .none
  installFile := .none

/-- The configuration with the settings laid over it. -/
def applyTo (s : Settings) (c : Config) : Config :=
  { c with
    simulator := s.simulator.getD c.simulator
    launcher := s.launcher.getD c.launcher
    oversubscribe := s.oversubscribe.getD c.oversubscribe
    ranks := s.ranks.getD c.ranks
    threads := s.threads.getD c.threads
    concurrency := s.concurrency.getD c.concurrency
    timeoutSecs := s.timeoutSecs.getD c.timeoutSecs
    outputDir := s.outputDir.getD c.outputDir
    reportDir := s.reportDir <|> c.reportDir
    keepOutputs := s.keepOutputs.getD c.keepOutputs
    failFast := s.failFast.getD c.failFast
    testType := s.testType.getD c.testType
    searchPaths := s.searchPaths.getD c.searchPaths
    installFile := s.installFile <|> c.installFile }

end Settings

/-- Settings and scenarios under a name. -/
structure Profile where
  name : String
  description : String
  scenarios : List String
  settings : Settings
  deriving DecidableEq, Repr

/-- The configuration with a profile laid over it. -/
def Profile.applyTo (p : Profile) (c : Config) : Config := (p.settings.applyTo c).activate p.scenarios

/-- What a settings file says. -/
structure SettingsFile where
  version : String
  engine : Settings
  profiles : List Profile
  deriving DecidableEq, Repr

/-- The ways in which a settings file is at fault. -/
inductive SettingsFault where
  | unknownVersion (version : String)
  | noConcurrency (origin : String)
  | noRanks (origin : String)
  | repeatedProfile (name : String)
  deriving DecidableEq, Repr

/-- The message of a fault. -/
def SettingsFault.message : SettingsFault → String
  | unknownVersion v => "Unsupported config version: " ++ v
  | noConcurrency o => "Concurrency must be at least 1 (in '" ++ o ++ "')"
  | noRanks o => "Ranks and threads must be at least 1 (in '" ++ o ++ "')"
  | repeatedProfile n => "Duplicate profile name: " ++ n

namespace SettingsFile

/-- The version of the file format. -/
def currentVersion : String := "1.0"

/-- A file without settings. -/
def empty : SettingsFile := ⟨currentVersion, .none, []⟩

/-- The profile of a name. -/
def profile? (f : SettingsFile) (name : String) : Option Profile := f.profiles.find? (·.name == name)

/-- Checks settings, which stand under the name `origin`. -/
def checkSettings (origin : String) (s : Settings) : Except SettingsFault Unit :=
  if s.concurrency = some 0 then .error (.noConcurrency origin)
  else if s.ranks = some 0 || s.threads = some 0 then .error (.noRanks origin)
  else .ok ()

/-- Checks that names differ; `seen` holds those before. -/
def checkNames (seen : List String) : List String → Except SettingsFault Unit
  | [] => .ok ()
  | n :: ns => if seen.contains n then .error (.repeatedProfile n) else checkNames (n :: seen) ns

/-- Checks a file: its version, all settings in order, and the names of the profiles. -/
def check (f : SettingsFile) : Except SettingsFault Unit := do
  if f.version != currentVersion then throw (.unknownVersion f.version)
  checkSettings "engine" f.engine
  f.profiles.forM fun p => checkSettings p.name p.settings
  checkNames [] (f.profiles.map Profile.name)

/-- A file to start from. -/
def «example» : SettingsFile where
  version := currentVersion
  engine := { Settings.none with
    simulator := some "sst", concurrency := some 4, timeoutSecs := some 120, searchPaths := some ["tests"] }
  profiles := [
    { name := "multi-rank"
      description := "Two MPI ranks, two threads each"
      scenarios := ["multi_rank"]
      settings := { Settings.none with ranks := some 2, threads := some 2, concurrency := some 2 } },
    { name := "nightly"
      description := "Every suite type with generous timeouts"
      scenarios := []
      settings := { Settings.none with testType := some "all", timeoutSecs := some 600 } }]

end SettingsFile

end SuiteRunner
