import SuiteRunner.Execution.Pool

/-!
# Rehearsals

A rehearsal is a run without a simulator.  Every case has a key and a status.  Whenever the pool waits, the running case
of the least key ends with its status, the earliest one among equals.  After a given number of endings the run is
interrupted.

Main definitions:

* `Rehearsal`;
* `Rehearsal.run`, with the log of what happened and the greatest number of cases that ran at once.
-/

namespace SuiteRunner

/-- What a case does in a rehearsal. -/
structure Part where
  status : Status
  key : Int
  deriving DecidableEq, Repr

/-- A run without a simulator. -/
structure Rehearsal where
  suites : List (Suite × List Part)
  settings : PoolSettings
  /-- After how many endings the run is interrupted. -/
  interruptAfter : Option Nat
  /-- Whether interrupts cannot be listened for. -/
  deaf : Bool
  deriving Repr

/-- The state of a rehearsal. -/
structure Stage where
  pool : Pool
  /-- What happened, the last first. -/
  log : List String
  endings : Nat
  interrupted : Bool
  peak : Nat
  deriving Repr

namespace Rehearsal

/-- The suite and the case of a slot, and what the case does. -/
def cast? (r : Rehearsal) (slot : Slot) : Option (Suite × TestCase × Part) := do
  let (suite, parts) ← r.suites[slot.suite]?
  return (suite, ← suite.cases[slot.case]?, ← parts[slot.case]?)

/-- The names of a slot. -/
def label (r : Rehearsal) (slot : Slot) : String :=
  match r.cast? slot with
  | some (suite, case, _) => suite.name ++ "." ++ case.name
  | none => ""

/-- The key of a slot. -/
def key (r : Rehearsal) (slot : Slot) : Int :=
  match r.cast? slot with
  | some (_, _, part) => part.key
  | none => 0

/-- The slot with the least key, the earliest among equals. -/
def leastFrom (r : Rehearsal) (best : Slot) : List Slot → Slot
  | [] => best
  | slot :: rest => r.leastFrom (if r.key slot < r.key best then slot else best) rest

/-- The message of every case that has one. -/
def message : String := "m"

/-- The result of a slot. -/
def result? (r : Rehearsal) (slot : Slot) : Option CaseResult :=
  (r.cast? slot).map fun (suite, case, part) =>
    match part.status with
    | .pass => .pass suite case
    | .fail => .fail suite case message
    | .skip => .skip suite case message
    | .error => .error suite case message

/-- The lines for cases that start, the last first. -/
def starts (r : Rehearsal) (slots : List Slot) : List String := (slots.map fun s => "start " ++ r.label s).reverse

/-- The state at the beginning. -/
def opening (r : Rehearsal) : Stage :=
  let pool := Pool.start r.settings (r.suites.map (·.1)) .epoch
  let pool := if r.deaf then pool.react r.settings .deaf .epoch else pool
  ⟨pool, r.starts pool.running, 0, false, pool.running.length⟩

/-- A slot ends, and the cases that it makes room for start. -/
def endSlot (r : Rehearsal) (s : Stage) (slot : Slot) (result : CaseResult) : Stage :=
  let pool := s.pool.react r.settings (.hands slot result) .epoch
  let started := s.pool.queue.take (s.pool.queue.length - pool.queue.length)
  { s with
    pool := pool
    log := r.starts started ++ ("end " ++ r.label slot) :: s.log
    endings := s.endings + 1
    peak := max s.peak pool.running.length }

/-- What happens next. -/
def act (r : Rehearsal) (s : Stage) : Stage :=
  if s.pool.ended.isSome then s
  else if !s.interrupted && r.interruptAfter = some s.endings then
    { s with
      pool := s.pool.react r.settings .interrupt .epoch
      log := "interrupt" :: s.log
      interrupted := true }
  else
    match s.pool.running with
    | [] => s
    | first :: rest =>
      let slot := r.leastFrom first rest
      match r.result? slot with
      | some result => r.endSlot s slot result
      | none => s

/-- The state after a number of acts. -/
def after (r : Rehearsal) (s : Stage) : Nat → Stage
  | 0 => s
  | n + 1 => r.after (r.act s) n

/-- The whole rehearsal: every case ends at most once, and there is at most one interrupt. -/
def run (r : Rehearsal) : Stage := r.after r.opening ((slotsOf (r.suites.map (·.1))).length + 1)

end Rehearsal

end SuiteRunner
