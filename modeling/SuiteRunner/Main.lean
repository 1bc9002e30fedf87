import Std.Time.DateTime.Timestamp
import SuiteRunner.CommandLine.Commands
import SuiteRunner.Shell.Machine

/-!
# The program

The program reads the files that it can have to do with, carries out what its arguments ask for, writes the files that
have changed, and prints.  The simulator runs on the machine of `Shell.machine`.

The files that it can have to do with are those below the working directory, below the directories of settings in the
home directory, and below the absolute paths that stand in arguments and variables.
-/

namespace SuiteRunner.Program

/-- The variables that the program looks at. -/
def variableNames : List String :=
  ["HOME", "NO_COLOR", "SST_CONFIG_FILE"] ++
    ["SST_PATH", "MPIRUN", "RANKS", "THREADS", "CONCURRENCY", "TIMEOUT", "TIMEOUT_OVERRIDE", "OUTPUT_DIR",
      "SCENARIOS", "CONFIG", "VERBOSE"].map ("SST_TEST_" ++ ·)

/-- The number of the user who runs a process, in the text that the system shows of the process. -/
def userOf? (status : String) : Option String :=
  (status.splitOn "\n").findSome? fun line =>
    match line.splitOn "\t" with
    | "Uid:" :: user :: _ => some user
    | _ => none

/-- The home directory of the user of a number, in the list of accounts. -/
def homeOf? (accounts user : String) : Option String :=
  (accounts.splitOn "\n").findSome? fun line =>
    match line.splitOn ":" with
    | _ :: _ :: number :: _ :: _ :: home :: _ => if number = user then some home else none
    | _ => none

/-- The home directory that is on record for the account of the user. -/
def readAccountHome : IO (Option String) := do
  try
    let status ← IO.FS.readFile "/proc/self/status"
    let accounts ← IO.FS.readFile "/etc/passwd"
    return (userOf? status).bind (homeOf? accounts)
  catch _ => return none

/-- The variables that are set, and the home directory on record. -/
def readEnvironment : IO Environment := do
  let values ← variableNames.mapM fun name => do return (← IO.getEnv name).map (name, ·)
  return ⟨values.filterMap id, ← readAccountHome⟩

/-- The location of an absolute path. -/
def locationOf (path : String) : Location :=
  ((Path.pieces path).map String.ofList).filter fun name => name != "" && name != "."

/-- How deep directories are read. -/
def depthLimit : Nat := 64

/-- What stands at a location and below it, and may be read. -/
def readBelow : Nat → Location → IO (List (Location × Entry))
  | 0, _ => return []
  | depth + 1, l => do
    try
      let here ← IO.FS.realPath l.path
      if ← here.isDir then
        let names := (← here.readDir).toList.map fun e => e.fileName
        let inside ← names.mapM fun name => readBelow depth (l ++ [name])
        return (l, .directory) :: inside.flatten
      else return [(l, .file (← IO.FS.readBinFile here).toList)]
    catch _ => return []

/-- The directories above a location. -/
def above (l : Location) : List (Location × Entry) := (List.range l.length).map fun n => (l.take n, .directory)

/-- The files that the program can have to do with. -/
def readFiles (environment : Environment) (args : List String) : IO FileTree := do
  let working := locationOf (← IO.currentDir).toString
  let home := (environment.home?.map locationOf).toList
  let named := (args ++ environment.bindings.map (·.2)).filter Path.isAbsolute
  let roots := working :: home.map (· ++ [".sst"]) ++ home.map (· ++ [".config", CommandLine.programName]) ++
    (named.map locationOf).filter fun l => !home.contains l
  let found ← roots.mapM fun l => do
    let inside ← readBelow depthLimit l
    return if inside.isEmpty then [] else above l ++ inside
  return ⟨found.flatten.filter fun e => !e.1.isEmpty, working⟩

/-- Writes what is new or has changed, and removes files that are gone. -/
def writeFiles (before after : FileTree) : IO Unit := do
  for (l, entry) in after.entries do
    match entry with
    | .directory => if (before.entries.lookup l).isNone then IO.FS.createDirAll l.path
    | .file content =>
      if before.entries.lookup l ≠ some entry then
        IO.FS.createDirAll (Location.path l.dropLast)
        IO.FS.writeBinFile l.path ⟨content.toArray⟩
  for (l, entry) in before.entries do
    match entry with
    | .directory => pure ()
    | .file _ => if (after.entries.lookup l).isNone then IO.FS.removeFile l.path

/-- The time. -/
def now : IO Instant := do
  let nanos := (← Std.Time.Timestamp.now).toNanosecondsSinceUnixEpoch.val
  return ⟨nanos / 1000000000, (nanos % 1000000000).toNat⟩

/-- Carries out what the arguments ask for. -/
def serve (args : List String) (i : Invocation) : IO ExitStatus := do
  let environment ← readEnvironment
  let before ← readFiles environment args
  let time ← now
  let site : Site := {
    environment := environment
    machine := Shell.machine environment
    schedule := .prompt
    clock := fun _ => time
    platform := ⟨"linux", "x86_64", CommandLine.version⟩
    host := (← IO.getEnv "HOSTNAME").getD "localhost"
    terminal := ← (← IO.getStdout).isTty }
  let reply := carryOut site before i
  writeFiles before reply.files
  IO.print reply.printed
  if let some fault := reply.fault then IO.eprintln ("ERROR " ++ fault.message)
  return reply.status

end SuiteRunner.Program

/-- Runs the program. -/
def main (args : List String) : IO UInt32 := do
  let status ←
    match SuiteRunner.Invocation.ofArguments args with
    | .ok i => SuiteRunner.Program.serve args i
    | .error .displayVersion =>
      IO.println (SuiteRunner.CommandLine.programName ++ " " ++ SuiteRunner.CommandLine.version)
      pure .success
    | .error fault =>
      IO.eprintln ("error: " ++ fault.name)
      pure (.ofUsage fault)
  return status.code.toUInt32
