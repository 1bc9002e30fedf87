/-!
# Stopwatches

A stopwatch records when the phases of a run end.

Main definitions:

* `Stopwatch` and `Stopwatch.lap`;
* `Stopwatch.lapTimes`, how long each phase took, and `Stopwatch.format`.
-/

namespace SuiteRunner

/-- The ends of phases, in milliseconds since the start, the last one first. -/
structure Stopwatch where
  laps : List (String × Nat)
  deriving DecidableEq, Repr

namespace Stopwatch

/-- A stopwatch that has just been started. -/
def start : Stopwatch := ⟨[]⟩

/-- A phase ends at the time `now`. -/
def lap (s : Stopwatch) (label : String) (now : Nat) : Stopwatch := ⟨(label, now) :: s.laps⟩

/-- The differences of ends, where the phase before the first one ended at `previous`. -/
def differences (previous : Nat) : List (String × Nat) → List (String × Nat)
  | [] => []
  | (label, now) :: rest => (label, now - previous) :: differences now rest

/-- How long each phase took. -/
def lapTimes (s : Stopwatch) : List (String × Nat) := differences 0 s.laps.reverse

/-- A label with a time. -/
def entry (e : String × Nat) : String := e.1 ++ "=" ++ toString e.2 ++ "ms"

/-- How long each phase took, and then how long it took until `now`. -/
def format (s : Stopwatch) (now : Nat) : String := " ".intercalate ((s.lapTimes ++ [("total", now)]).map entry)

end Stopwatch

end SuiteRunner
