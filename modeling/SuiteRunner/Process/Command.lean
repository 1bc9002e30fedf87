import SuiteRunner.Config.Basic

/-!
# Commands

How the simulator is called for one case.

Main definitions:

* `Command`, with `Command.ofConfig`;
* `Command.program` and `Command.argv`, what is started.  On several ranks that is the launcher, which then starts the
  simulator;
* `Command.display`, the command on one line.
-/

namespace SuiteRunner

/-- A call of the simulator. -/
structure Command where
  simulator : String
  launcher : String
  oversubscribe : Bool
  ranks : Nat
  threads : Nat
  args : List String
  modelOptions : Option String
  model : String
  deriving DecidableEq, Repr

namespace Command

/-- A call on one rank and with one thread. -/
def plain (simulator model : String) : Command := ⟨simulator, "mpirun", false, 1, 1, [], none, model⟩

/-- A call as the configuration says. -/
def ofConfig (c : Config) (model : String) : Command :=
  ⟨c.simulator, c.launcher, c.oversubscribe, c.ranks, c.threads, [], none, model⟩

/-- The program that is started. -/
def program (c : Command) : String := if 1 < c.ranks then c.launcher else c.simulator

/-- What the launcher is told before the arguments of the simulator. -/
def launcherArgs (c : Command) : List String :=
  if 1 < c.ranks then
    ["-np", toString c.ranks] ++ (if c.oversubscribe then ["--oversubscribe"] else []) ++ [c.simulator]
  else []

/-- The number of threads, if it is not one. -/
def threadArgs (c : Command) : List String :=
  if 1 < c.threads then ["--num-threads", toString c.threads] else []

/-- The options of the model. -/
def optionArgs (c : Command) : List String :=
  match c.modelOptions with
  | some o => ["--model-options", o]
  | none => []

/-- The arguments of the program. -/
def argv (c : Command) : List String := c.launcherArgs ++ c.threadArgs ++ c.args ++ c.optionArgs ++ [c.model]

/-- An argument as the display shows it: in quotes if it is empty or has white space in it. -/
def quoted (arg : String) : String :=
  if arg.isEmpty || arg.toList.any Unicode.isWhite then
    "\"" ++ String.ofList (Text.replaceAll ['"'] ['\\', '"'] arg.toList) ++ "\""
  else arg

/-- The command on one line. -/
def display (c : Command) : String := c.program ++ String.join (c.argv.map fun a => " " ++ quoted a)

end Command

end SuiteRunner
