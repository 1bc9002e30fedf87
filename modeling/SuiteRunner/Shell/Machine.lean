import SuiteRunner.Environment
import SuiteRunner.Process.Outcome
import SuiteRunner.Shell.Run

/-!
# A machine with a shell

`Shell.machine` is a machine whose programs are a shell and the tools.  Files are not programs, whatever is in them.
-/

namespace SuiteRunner.Shell

/-- The name of the program that a call starts. -/
def resolve (files : FileTree) (program : String) : Except FileFault String :=
  if program.contains '/' then
    match programAt? program with
    | some name => .ok name
    | none =>
      match files.find program with
      | .ok _ => .error .permissionDenied
      | .error f => .error f
  else if program = "sh" || (tool? program).isSome then .ok program
  else .error .notFound

/-- The number of steps after which a script is taken for one that does not end. -/
def stepLimit : Nat := 100000

/-- The channel of a file. -/
def channelTo (files : FileTree) (path : String) : Channel :=
  match files.locate path with
  | .ok l => .file l
  | .error _ => .discard

/-- The outcome of a shell. -/
def outcomeOf (r : Ran) : Outcome :=
  match r.2 with
  | some .outOfTime => .timeout r.1.limit
  | some (.killed signal) => .killed signal
  | some (.exit status) => .exited status
  | _ => .exited r.1.status

/-- Runs a program in its working directory. -/
def runProgram (environment : Environment) (files : FileTree) (launch : Launch) (name : String) : Ran :=
  let bindings := ("PWD", files.working.path) :: environment.bindings
  let s : Session := ⟨files, name, [], bindings, 0, [], [], 0, launch.timeoutSecs * 1000, false⟩
  let streams : Streams := ⟨channelTo files launch.capture.stdout, channelTo files launch.capture.stderr⟩
  if launch.timeoutSecs = 0 then (s, some .outOfTime)
  else
    match tool? name with
    | some tool => settle s streams (tool ⟨launch.argv, s.files, []⟩)
    | none => runShell stepLimit streams launch.program launch.argv s

/-- A machine whose programs are a shell and the tools. -/
def machine (environment : Environment) : Machine := fun files launch =>
  let texts := launch.program :: launch.capture.workingDir :: launch.argv
  if texts.any fun a => a.contains '\x00' then .error .nulInArgument
  else
    match files.find launch.capture.workingDir with
    | .error f => .error (.file f)
    | .ok (_, .file _) => .error (.file .notDirectory)
    | .ok (l, .directory) =>
      let inside := { files with working := l }
      match resolve inside launch.program with
      | .error f => .error (.file f)
      | .ok name =>
        let r := runProgram environment inside launch name
        .ok (outcomeOf r, { r.1.files with working := files.working })

end SuiteRunner.Shell
