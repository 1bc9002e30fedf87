import SuiteRunner.Execution.Skip
import SuiteRunner.Execution.Verdict

/-!
# Running a case

A runner calls the simulator for a case and judges what it did.

Main definitions:

* `Placeholders` and `Placeholders.expand`, the names that stand for paths in arguments;
* `Runner`, with `Runner.commandOf`, `Runner.captureOf` and `Runner.run`.
-/

namespace SuiteRunner

/-! ### Placeholders -/

/-- What the placeholders of a case stand for. -/
structure Placeholders where
  suiteDir : String
  outputDir : String
  testName : String
  deriving DecidableEq, Repr

/-- The placeholder with a name: the name in braces. -/
def placeholder (name : String) : List Char := '{' :: name.toList ++ ['}']

/-- The text with the placeholders replaced, one after the other. -/
def Placeholders.expand (p : Placeholders) (text : String) : String :=
  let put (name value : String) (s : List Char) : List Char := Text.replaceAll (placeholder name) value.toList s
  String.ofList (put "test_name" p.testName (put "output_dir" p.outputDir (put "suite_dir" p.suiteDir text.toList)))

/-! ### Cases -/

/-- What every case of a run is run with. -/
structure Runner where
  config : Config
  /-- The record of the simulator installation. -/
  install : Option SimulatorConf

namespace Runner

/-- The directory of the captures of a suite. -/
def outputDirOf (r : Runner) (s : Suite) : String := Path.join r.config.outputDir s.name

/-- The call of the simulator for a case. -/
def commandOf (r : Runner) (p : Placeholders) (c : TestCase) : Command :=
  { Command.ofConfig r.config c.model with
    args := c.args.map p.expand
    modelOptions := c.modelOptions.map p.expand }

/-- What the placeholders of a case stand for. -/
def placeholdersOf (r : Runner) (files : FileTree) (s : Suite) (c : TestCase) : Placeholders :=
  ⟨files.absolute s.dir, files.absolute (r.outputDirOf s), c.name⟩

/-- Where a case runs, and the files that take its output. -/
def captureOf (r : Runner) (files : FileTree) (s : Suite) (c : TestCase) : Capture :=
  Capture.within (files.absolute s.dir) (files.absolute (r.outputDirOf s)) c.name

/-- The time limit of a case in seconds. -/
def timeoutOf (r : Runner) (s : Suite) (c : TestCase) : Nat := r.config.timeoutFor (s.timeoutOf c)

/-- Removes a file if it can be. -/
def discard (files : FileTree) (path : String) : FileTree := ((files.remove path).toOption).getD files

/-- Removes the captures of a passing case, unless outputs are kept. -/
def tidy (r : Runner) (files : FileTree) (capture : Capture) (v : Verdict) : FileTree :=
  if v.status = .pass && !r.config.keepOutputs then discard (discard files capture.stdout) capture.stderr else files

/-- Calls the simulator for a case and judges what it did; the result has no duration yet. -/
def execute (r : Runner) (machine : Machine) (files : FileTree) (s : Suite) (c : TestCase) : CaseResult × FileTree :=
  match files.createDirectories (r.outputDirOf s) with
  | .error fault => (.error s c fault.message, files)
  | .ok files =>
    let capture := r.captureOf files s c
    let limit := r.timeoutOf s c
    match runCommand machine files (r.commandOf (r.placeholdersOf files s c) c) capture limit with
    | (.error fault, files) => (.error s c fault.message, files)
    | (.ok outcome, files) =>
      let verdict := judge files s c capture limit outcome
      (verdict.result s c capture r.config.keepOutputs, r.tidy files capture verdict)

/-- Runs a case, or says why it is skipped.  A case that is run has taken `elapsedMs` milliseconds when its result is
there. -/
def run (r : Runner) (machine : Machine) (files : FileTree) (s : Suite) (c : TestCase) (elapsedMs : Nat) :
    CaseResult × FileTree :=
  match skipReason? r.config r.install s c with
  | some reason => (.skip s c reason.message, files)
  | none =>
    let (result, files) := r.execute machine files s c
    (result.withDuration elapsedMs, files)

/-- Runs cases of a suite one after the other; `took` says how many milliseconds each of them takes. -/
def runAll (r : Runner) (machine : Machine) (files : FileTree) (s : Suite) (took : TestCase → Nat) :
    List TestCase → List CaseResult × FileTree
  | [] => ([], files)
  | c :: cs =>
    let (result, files) := r.run machine files s c (took c)
    let (results, files) := r.runAll machine files s took cs
    (result :: results, files)

end Runner

end SuiteRunner
