/-!
# Log levels

`LogLevel.ofVerbosity` is the level for a number of requests to say more, or for the request to be quiet.
-/

namespace SuiteRunner

/-- How much is logged. -/
inductive LogLevel where
  | trace
  | debug
  | info
  | warn
  | error
  deriving DecidableEq, Repr

namespace LogLevel

/-- The name of a level. -/
def name : LogLevel → String
  | trace => "Trace"
  | debug => "Debug"
  | info => "Info"
  | warn => "Warn"
  | error => "Error"

/-- The name of a level in capitals. -/
def capitals : LogLevel → String
  | trace => "TRACE"
  | debug => "DEBUG"
  | info => "INFO"
  | warn => "WARN"
  | error => "ERROR"

/-- The level for a number of requests to say more; quiet wins. -/
def ofVerbosity (verbose : Nat) (quiet : Bool) : LogLevel :=
  if quiet then error
  else
    match verbose with
    | 0 => warn
    | 1 => info
    | 2 => debug
    | _ => trace

end LogLevel

end SuiteRunner
