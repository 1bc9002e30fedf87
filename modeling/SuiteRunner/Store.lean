import SuiteRunner.Config.Document
import SuiteRunner.Result.Document

/-!
# Saved runs

Every run is saved as a file in the directory `runs` of the output directory.

Main definitions:

* `StoredRun` with its document;
* `RunStore`, with `save`, `load`, `list` and `latest?`, and `StoreFault`.
-/

namespace SuiteRunner

/-- What a run was made on and with. -/
structure Platform where
  os : String
  arch : String
  toolVersion : String
  deriving DecidableEq, Repr

/-- A saved run. -/
structure StoredRun where
  id : String
  startedAt : Instant
  completedAt : Instant
  summary : RunSummary
  config : Config
  platform : Platform
  deriving DecidableEq, Repr

namespace StoredRun

/-- The document of a run. -/
def toValue (r : StoredRun) : Value := .object [
  ("id", .text r.id),
  ("started_at", .text r.startedAt.text),
  ("completed_at", .text r.completedAt.text),
  ("summary", r.summary.toValue),
  ("config", r.config.toValue),
  ("environment", .object [
    ("os", .text r.platform.os),
    ("arch", .text r.platform.arch),
    ("tool_version", .text r.platform.toolVersion)])]

/-- Reads a platform. -/
def readPlatform? (n : Node) : Option Platform := do
  let r ← Record.ofNode? ["os", "arch", "tool_version"] n
  return ⟨← r.required "os" Node.text?, ← r.required "arch" Node.text?, ← r.required "tool_version" Node.text?⟩

/-- Reads a run. -/
def ofNode? (n : Node) : Option StoredRun := do
  let r ← Record.ofNode? ["id", "started_at", "completed_at", "summary", "config", "environment"] n
  return {
    id := ← r.required "id" Node.text?
    startedAt := ← r.required "started_at" readInstant?
    completedAt := ← r.required "completed_at" readInstant?
    summary := ← r.required "summary" RunSummary.ofNode?
    config := ← r.required "config" Config.ofNode?
    platform := ← r.required "environment" readPlatform? }

/-- The name of a run that is saved at an instant, as one of several that the program saves. -/
def nameAt (t : Instant) (sequence : Nat) : String := t.compactText ++ "_" ++ Numeral.padded 4 (sequence % 10000)

/-- Holds when a run comes before another one in lists: the later start first, then the greater name. -/
def precedes (a b : StoredRun) : Bool :=
  if a.startedAt = b.startedAt then !(a.id < b.id) else b.startedAt.le a.startedAt

end StoredRun

/-- The ways in which runs cannot be saved or loaded. -/
inductive StoreFault where
  | noDirectory (path : String) (fault : FileFault)
  | notCreated (fault : FileFault)
  | notOpened (id : String) (fault : FileFault)
  | malformed (id : String)
  | notListed (fault : FileFault)
  deriving DecidableEq, Repr

/-- The message of a fault. -/
def StoreFault.message : StoreFault → String
  | noDirectory p f => "Failed to create " ++ p ++ ": " ++ f.message
  | notCreated f => "Failed to create run file: " ++ f.message
  | notOpened id f => "Unknown run: " ++ id ++ ": Failed to open run file: " ++ f.message
  | malformed id => "Unknown run: " ++ id ++ ": Failed to parse run file: no run"
  | notListed f => f.message

/-- The saved runs in a directory. -/
structure RunStore where
  dir : String
  deriving DecidableEq, Repr

namespace RunStore

/-- The saved runs of an output directory. -/
def ofOutput (outputDir : String) : RunStore := ⟨Path.join outputDir "runs"⟩

/-- The file of a run. -/
def path (s : RunStore) (id : String) : String := Path.join s.dir (id ++ ".json")

/-- The text of the file of a run. -/
def content (r : StoredRun) : String := Json.pretty r.toValue

/-- Saves a run, and gives the path of its file. -/
def save (s : RunStore) (files : FileTree) (r : StoredRun) : Except StoreFault (String × FileTree) := do
  let files ← (files.createDirectories s.dir).mapError (.noDirectory s.dir)
  let files ← (files.write (s.path r.id) (Utf8.encode (content r).toList)).mapError .notCreated
  return (s.path r.id, files)

/-- The run in the file at a path; nothing if the file does not hold one. -/
def read? (files : FileTree) (path : String) : Option StoredRun := do
  let text ← (files.readText path).toOption
  StoredRun.ofNode? (← Json.read? text)

/-- Loads a run. -/
def load (s : RunStore) (files : FileTree) (id : String) : Except StoreFault StoredRun :=
  match files.find (s.path id) with
  | .error f => .error (.notOpened id f)
  | .ok _ =>
    match read? files (s.path id) with
    | none => .error (.malformed id)
    | some r => .ok r

/-- The runs that can be loaded from files of the directory, the latest first. -/
def runsIn (s : RunStore) (files : FileTree) (names : List String) : List StoredRun :=
  let paths := (names.map (Path.join s.dir)).filter fun p => Path.extension? p = some "json"
  (paths.filterMap (read? files)).mergeSort StoredRun.precedes

/-- All runs that can be loaded, the latest first. -/
def list (s : RunStore) (files : FileTree) : Except StoreFault (List StoredRun) :=
  if !files.exists? s.dir then .ok []
  else
    match files.list s.dir with
    | .error f => .error (.notListed f)
    | .ok names => .ok (s.runsIn files names)

/-- The latest run. -/
def latest? (s : RunStore) (files : FileTree) : Except StoreFault (Option StoredRun) :=
  (s.list files).map List.head?

end RunStore

end SuiteRunner
