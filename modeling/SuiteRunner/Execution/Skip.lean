import SuiteRunner.Config.Basic
import SuiteRunner.SimulatorConf
import SuiteRunner.Suite.Basic

/-!
# Skipped cases

A case is not run if its suite says so, if a scenario stands against it, if there are too many ranks or threads, or if
an element that it needs is not installed.

Main definitions:

* `SkipReason` with `SkipReason.message`;
* `skipReason?`, the first reason in the order above.
-/

namespace SuiteRunner

/-- The reasons why a case is not run. -/
inductive SkipReason where
  /-- The suite says so. -/
  | stated (reason : String)
  | scenario (name : String)
  | ranks (most running : Nat)
  | threads (most running : Nat)
  | element (name : String)
  deriving DecidableEq, Repr

/-- The message of a reason. -/
def SkipReason.message : SkipReason → String
  | stated reason => reason
  | scenario name => "skipped for scenario '" ++ name ++ "'"
  | ranks most running =>
    "requires at most " ++ toString most ++ " ranks (running with " ++ toString running ++ ")"
  | threads most running =>
    "requires at most " ++ toString most ++ " threads (running with " ++ toString running ++ ")"
  | element name => "element '" ++ name ++ "' is not registered"

/-- Holds when an element is in the record of the installation; without a record none is. -/
def isRegistered (install : Option SimulatorConf) (element : String) : Bool :=
  match install with
  | some conf => conf.hasElement element.toList
  | none => false

/-- A limit that is exceeded. -/
def exceeded? (limit : Option Nat) (running : Nat) : Option Nat := limit.filter (· < running)

/-- The reason why a case of a suite is not run, if there is one. -/
def skipReason? (config : Config) (install : Option SimulatorConf) (s : Suite) (c : TestCase) : Option SkipReason :=
  c.skip.map .stated <|>
  (c.skipOnScenarios.find? config.isActive).map .scenario <|>
  (exceeded? (s.maxRanksOf c) config.ranks).map (.ranks · config.ranks) <|>
  (exceeded? (s.maxThreadsOf c) config.threads).map (.threads · config.threads) <|>
  ((s.elementsOf c).find? fun e => !isRegistered install e).map .element

end SuiteRunner
