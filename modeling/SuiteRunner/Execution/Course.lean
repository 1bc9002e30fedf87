import SuiteRunner.Execution.Pool
import SuiteRunner.Execution.Runner

/-!
# The course of a run

A run goes by turns.  At each turn one of the running cases ends, or the run is interrupted.  A schedule says which, and
how long the case took; every order in which cases can end, after whatever times, is that of some schedule.

Main definitions:

* `Turn` and `Schedule`, with `Schedule.prompt`, the order of launching;
* `Course`, what a run goes by, and `Course.State`;
* `Course.run`, the state in which a run ends.
-/

namespace SuiteRunner

/-- What happens next in a run. -/
inductive Turn where
  /-- The running case of a number ends, when it has taken so many milliseconds; the first one if there is none of that
  number. -/
  | ends (index elapsedMs : Nat)
  | interrupt
  deriving DecidableEq, Repr

/-- Says what happens next, by the number of turns that were taken and by the running cases, of each of which it is
known whether it is skipped. -/
abbrev Schedule := Nat → List Bool → Turn

/-- Cases end in the order in which they were launched, but those that are skipped end at once.  They take no time. -/
def Schedule.prompt : Schedule := fun _ running => .ends (running.findIdx id) 0

/-- What a run goes by. -/
structure Course where
  suites : List Suite
  runner : Runner
  machine : Machine
  schedule : Schedule
  /-- The time after a number of turns. -/
  clock : Nat → Instant
  /-- How the progress of the run is printed, if it is. -/
  progress : Option Formatter

/-- The state of a run. -/
structure Course.State where
  pool : Pool
  files : FileTree
  printed : String
  turns : Nat

namespace Course

/-- How cases are launched. -/
def settings (c : Course) : PoolSettings := ⟨c.runner.config.concurrency, c.runner.config.failFast⟩

/-- The suite and the case of a slot. -/
def case? (c : Course) (slot : Slot) : Option (Suite × TestCase) := do
  let suite ← c.suites[slot.suite]?
  return (suite, ← suite.cases[slot.case]?)

/-- Holds when the case of a slot is skipped. -/
def isSkipped (c : Course) (slot : Slot) : Bool :=
  match c.case? slot with
  | some (suite, case) => (skipReason? c.runner.config c.runner.install suite case).isSome
  | none => false

/-- The first cases are launched. -/
def opening (c : Course) (files : FileTree) : State := ⟨Pool.start c.settings c.suites (c.clock 0), files, "", 0⟩

/-- What is printed for a result. -/
def echo (c : Course) (s : State) (result : CaseResult) : String :=
  match c.progress with
  | some f => s.pool.sink.echo f result
  | none => ""

/-- The case of a slot is run and ends. -/
def endSlot (c : Course) (s : State) (slot : Slot) (elapsedMs : Nat) : State :=
  match c.case? slot with
  | none => s
  | some (suite, case) =>
    let (result, files) := c.runner.run c.machine s.files suite case elapsedMs
    { pool := s.pool.react c.settings (.hands slot result) (c.clock (s.turns + 1))
      files := files
      printed := s.printed ++ c.echo s result
      turns := s.turns + 1 }

/-- The run is interrupted. -/
def interrupt (c : Course) (s : State) : State :=
  { s with
    pool := s.pool.react c.settings .interrupt (c.clock (s.turns + 1))
    turns := s.turns + 1 }

/-- Takes a turn, unless the run is over. -/
def act (c : Course) (s : State) : State :=
  match s.pool.running with
  | [] => s
  | first :: rest =>
    match c.schedule s.turns ((first :: rest).map c.isSkipped) with
    | .ends index elapsedMs => c.endSlot s ((first :: rest)[index]?.getD first) elapsedMs
    | .interrupt => c.interrupt s

/-- The state after a number of turns. -/
def after (c : Course) (s : State) : Nat → State
  | 0 => s
  | n + 1 => c.after (c.act s) n

/-- The state in which a run ends: every case ends at most once, and there is at most one interrupt. -/
def run (c : Course) (files : FileTree) : State := c.after (c.opening files) ((slotsOf c.suites).length + 1)

/-- Holds when a run was interrupted. -/
def State.isInterrupted (s : State) : Bool := s.pool.ended = some .interrupted

/-- The summary of a run that has ended. -/
def State.summary (c : Course) (s : State) : RunSummary := s.pool.summary (c.clock s.turns)

end Course

end SuiteRunner
