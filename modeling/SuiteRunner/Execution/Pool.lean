import SuiteRunner.Execution.Sink

/-!
# The pool of running cases

A bounded number of cases runs at once.  A loop launches cases in the order of their declaration until the pool is full,
and then waits.  A launched case goes its own way: it starts, its runner ends, it hands the result to the sink, and it
leaves a notice.  The loop takes the notices one by one and launches more.  With fail-fast, nothing is launched after the
notice of a failure.  An interrupt closes the sink; the cases that are still on their way are dropped, and the loop waits
until they are gone.

Main definitions:

* `PoolSettings` and `Pool`, with `Pool.idle`;
* `PoolEvent`, the smallest things that the loop, a case or the outside can do, with `Pool.allows`, when each of them can
  happen, and `Pool.apply`, what it does;
* `Pool.step?` and `Pool.run?`.  The loop and the cases do not wait for each other, so every order in which things can
  happen is a list of events, and each of them is one such list;
* `Pool.settle`, what the pool does by itself, with `Pool.start` and `Pool.react`.
-/

namespace SuiteRunner

/-- How a pool launches cases. -/
structure PoolSettings where
  /-- How many cases may run at once; zero counts as one. -/
  concurrency : Nat
  /-- Whether nothing is launched after a failure. -/
  failFast : Bool
  deriving DecidableEq, Repr

/-- How many cases may run at once. -/
def PoolSettings.limit (s : PoolSettings) : Nat := max 1 s.concurrency

/-- How a pool has come to its end. -/
inductive PoolEnd where
  | completed
  | interrupted
  deriving DecidableEq, Repr

/-- What is said of a run that was interrupted. -/
def interruptMessage : String := "Test run interrupted"

/-- Where the loop stands. -/
inductive PoolLoop where
  /-- It launches cases while there is room. -/
  | filling
  /-- It waits for a notice or an interrupt. -/
  | waiting
  /-- The run was interrupted; it waits until no launched case is left. -/
  | joining
  | finished (ending : PoolEnd)
  deriving DecidableEq, Repr

/-- The cases of a run. -/
structure Pool where
  /-- The cases that were not launched yet. -/
  queue : List Slot
  /-- The cases that were launched and have not started. -/
  launched : List Slot
  /-- The cases that run, the earliest first. -/
  running : List Slot
  /-- The cases that have handed in their results and owe a notice; each with whether it has failed. -/
  handed : List (Slot × Bool)
  /-- The notices that were not taken yet, the earliest first; each says whether its case has failed. -/
  notices : List Bool
  /-- How many cases the loop has launched without having taken their notices, by its own count. -/
  inFlight : Nat
  /-- Whether nothing more is launched. -/
  stopping : Bool
  /-- Whether the pool listens for an interrupt. -/
  listening : Bool
  loop : PoolLoop
  sink : ResultSink
  deriving DecidableEq, Repr

/-- What can happen in a pool. -/
inductive PoolEvent where
  /-- The loop launches the next case. -/
  | launch (slot : Slot)
  /-- The loop has launched what it can, and waits; it is over if nothing is in flight. -/
  | pause
  /-- The loop takes the earliest notice. -/
  | notice (failed : Bool)
  /-- The run is interrupted. -/
  | interrupt
  /-- Interrupts cannot be listened for. -/
  | deaf
  /-- After an interrupt, no launched case is left. -/
  | join
  /-- A launched case starts. -/
  | starts (slot : Slot) (now : Instant)
  /-- The runner of a case ends, and the result is handed to the sink. -/
  | hands (slot : Slot) (result : CaseResult)
  /-- A case that has handed in its result leaves its notice. -/
  | leaves (slot : Slot) (failed : Bool)
  /-- After an interrupt, a case is dropped on its way to a result. -/
  | drop (slot : Slot)
  deriving DecidableEq, Repr

/-- The slots of suites, in the order of their declaration. -/
def slotsOf (suites : List Suite) : List Slot :=
  suites.zipIdx.flatMap fun (s, i) => (List.range s.cases.length).map fun c => ⟨i, c⟩

/-- How many events the place of the loop stands for at most. -/
def PoolLoop.rank : PoolLoop → Nat
  | filling | joining => 1
  | waiting | finished _ => 0

namespace Pool

/-- The pool before anything has happened. -/
def idle (suites : List Suite) : Pool :=
  ⟨slotsOf suites, [], [], [], [], 0, false, true, .filling, .ofSuites suites⟩

/-- How the pool has come to its end, if it has. -/
def ended (p : Pool) : Option PoolEnd :=
  match p.loop with
  | .finished ending => some ending
  | _ => none

/-- Holds when one more case may be launched. -/
def hasRoom (settings : PoolSettings) (p : Pool) : Bool := p.inFlight < settings.limit && !p.stopping

/-! ### Events -/

/-- Holds for what can happen next. -/
def allows (settings : PoolSettings) (p : Pool) : PoolEvent → Bool
  | .launch slot => p.loop = .filling && p.hasRoom settings && p.queue.head? = some slot
  | .pause => p.loop = .filling && !(p.hasRoom settings && !p.queue.isEmpty)
  | .notice failed => p.loop = .waiting && p.notices.head? = some failed
  | .interrupt | .deaf => p.loop = .waiting && p.listening
  | .join => p.loop = .joining && p.launched.isEmpty && p.running.isEmpty && p.handed.isEmpty
  | .starts slot _ => p.launched.contains slot
  | .hands slot _ => p.running.contains slot
  | .leaves slot failed => p.handed.contains (slot, failed)
  | .drop slot => p.loop = .joining && (p.launched.contains slot || p.running.contains slot)

/-- What an event does. -/
def apply (settings : PoolSettings) (p : Pool) : PoolEvent → Pool
  | .launch slot =>
    { p with queue := p.queue.tail, launched := p.launched ++ [slot], inFlight := p.inFlight + 1 }
  | .pause => { p with loop := if p.inFlight = 0 then .finished .completed else .waiting }
  | .notice failed =>
    { p with
      notices := p.notices.tail
      inFlight := p.inFlight - 1
      stopping := p.stopping || (failed && settings.failFast)
      loop := .filling }
  | .interrupt => { p with listening := false, loop := .joining, sink := p.sink.close }
  | .deaf => { p with listening := false, loop := .filling }
  | .join => { p with loop := .finished .interrupted }
  | .starts slot now =>
    { p with
      launched := p.launched.erase slot
      running := p.running ++ [slot]
      sink := p.sink.start slot.suite now }
  | .hands slot result =>
    { p with
      running := p.running.erase slot
      handed := p.handed ++ [(slot, result.status.isFailure)]
      sink := p.sink.forward slot result }
  | .leaves slot failed =>
    { p with handed := p.handed.erase (slot, failed), notices := p.notices ++ [failed] }
  | .drop slot => { p with launched := p.launched.erase slot, running := p.running.erase slot }

/-- What follows on an event; nothing if the event cannot happen. -/
def step? (settings : PoolSettings) (p : Pool) (e : PoolEvent) : Option Pool :=
  if p.allows settings e then some (p.apply settings e) else none

/-- What follows on a list of events. -/
def run? (settings : PoolSettings) (p : Pool) : List PoolEvent → Option Pool
  | [] => some p
  | e :: events => (p.step? settings e).bind fun p => p.run? settings events

/-- How many events can follow at most. -/
def rank (p : Pool) : Nat :=
  6 * p.queue.length + 5 * p.launched.length + 4 * p.running.length + 3 * p.handed.length + 2 * p.notices.length +
    2 * p.listening.toNat + p.loop.rank

/-- The summary of a pool that has ended. -/
def summary (p : Pool) (now : Instant) : RunSummary := p.sink.finish (p.ended = some .interrupted) now

/-! ### What a pool does by itself -/

/-- What the loop does next, if it does not have to wait. -/
def loopNext? (settings : PoolSettings) (p : Pool) : Option PoolEvent :=
  match p.loop with
  | .filling => if p.hasRoom settings then some (p.queue.head?.elim .pause .launch) else some .pause
  | .waiting => p.notices.head?.map .notice
  | .joining => some (p.running.head?.elim .join .drop)
  | .finished _ => none

/-- What happens next, if no runner has to end for it and nothing comes from the outside: cases start, or are dropped
after an interrupt, and leave their notices before the loop goes on. -/
def next? (settings : PoolSettings) (now : Instant) (p : Pool) : Option PoolEvent :=
  match p.launched, p.handed with
  | slot :: _, _ => some (if p.loop = .joining then .drop slot else .starts slot now)
  | [], (slot, failed) :: _ => some (.leaves slot failed)
  | [], [] => p.loopNext? settings

/-- Goes on for a number of events, as far as the pool does by itself. -/
def goOn (settings : PoolSettings) (now : Instant) : Nat → Pool → Pool
  | 0, p => p
  | n + 1, p =>
    match p.next? settings now with
    | some e => goOn settings now n (p.apply settings e)
    | none => p

/-- Goes on until a runner has to end or something has to come from the outside. -/
def settle (settings : PoolSettings) (now : Instant) (p : Pool) : Pool := p.goOn settings now p.rank

/-- A pool with the first cases launched and started. -/
def start (settings : PoolSettings) (suites : List Suite) (now : Instant) : Pool := (idle suites).settle settings now

/-- An event, if it can happen, and what the pool then does by itself. -/
def react (settings : PoolSettings) (p : Pool) (e : PoolEvent) (now : Instant) : Pool :=
  ((p.step? settings e).map fun p => p.settle settings now).getD p

end Pool

end SuiteRunner
