import SuiteRunner.Suite.Reader
import SuiteRunner.FileTree
import SuiteRunner.Glob
import SuiteRunner.Yaml.Reader
import SuiteRunner.Json.Reader

/-!
# Finding suites

Suite files are called `testsuite_<type>_<name>` and are found by walking directories.  A suite is checked when it is
loaded: its cases have different names, a model each, and filters that can be read.

Main definitions:

* `splitStem?`, the type and the name in the name of a file;
* `loadSuite`, with `SuiteFault`, the ways in which it fails;
* `Selection`, what to look for, and `discover`, with `DiscoveryFault`.
-/

namespace SuiteRunner

/-! ### File names -/

/-- The type and the name of a suite in the name of its file, without the extension. -/
def splitStem? (stem : String) : Option (String × String) :=
  match Text.stripFront? "testsuite_".toList stem.toList with
  | none => none
  | some rest =>
    match Text.splitAt? ['_'] rest with
    | none => none
    | some (type, name) =>
      if type.isEmpty || name.isEmpty then none else some (String.ofList type, String.ofList name)

/-- The extensions of suite files. -/
def suiteExtensions : List String := ["yaml", "yml", "json"]

/-- Holds for the path of a suite file. -/
def isSuitePath (path : String) : Bool :=
  (match Path.extension? path with
    | some e => suiteExtensions.contains e
    | none => false) &&
    ((Path.stem? path).bind splitStem?).isSome

/-! ### Loading -/

/-- The ways in which the cases of a suite are at fault. -/
inductive CaseFault where
  | duplicate (suite case : String)
  | emptyModel (suite case : String)
  | badFilter (suite case : String) (error : FilterError)

/-- The message of a fault; the fault of a filter is told twice, as the reason and as its cause. -/
def CaseFault.message : CaseFault → String
  | duplicate s c => "Suite '" ++ s ++ "' declares test '" ++ c ++ "' more than once"
  | emptyModel s c => "Suite '" ++ s ++ "' test '" ++ c ++ "' has no model file"
  | badFilter s c e =>
    "Suite '" ++ s ++ "' test '" ++ c ++ "' has an invalid filter: " ++ e.message ++ ": " ++ e.message

/-- The ways in which a suite file cannot be loaded. -/
inductive SuiteFault where
  | unreadable (path : String) (fault : FileFault)
  | malformed (path : String)
  | invalid (path : String) (fault : CaseFault)

/-- The message of a fault. -/
def SuiteFault.message : SuiteFault → String
  | unreadable p f => "Failed to read suite file: " ++ p ++ ": " ++ f.message
  | malformed p => "Failed to parse suite file: " ++ p ++ ": no test suite"
  | invalid p f => "Invalid suite file: " ++ p ++ ": " ++ f.message

/-- Checks the cases of a suite in order; `seen` holds the names of those before. -/
def checkCases (s : Suite) (seen : List String) : List TestCase → Except CaseFault Unit
  | [] => .ok ()
  | c :: cs =>
    if seen.contains c.name then .error (.duplicate s.name c.name)
    else if c.model.isEmpty then .error (.emptyModel s.name c.name)
    else
      match FilterSet.compile (s.filtersOf c) with
      | .error e => .error (.badFilter s.name c.name e)
      | .ok _ => checkCases s (c.name :: seen) cs

/-- The document of a suite file: JSON by its extension, otherwise YAML. -/
def suiteDocument? (path : String) (text : List Char) : Option Node :=
  if Path.extension? path = some "json" then Json.read? text else Yaml.read? text

/-- Names a suite after its file, where it has no name of its own. -/
def Suite.named (s : Suite) (path : String) : Suite :=
  let stem := (Path.stem? path).getD ""
  let (type, name) := (splitStem? stem).getD ("default", stem)
  { s with name := if s.name.isEmpty then name else s.name, testType := type, path := path }

/-- Loads and checks a suite file. -/
def loadSuite (files : FileTree) (path : String) : Except SuiteFault Suite :=
  match files.readText path with
  | .error f => .error (.unreadable path f)
  | .ok text =>
    match (suiteDocument? path text).bind Suite.ofNode? with
    | none => .error (.malformed path)
    | some s =>
      let s := s.named path
      match checkCases s [] s.cases with
      | .error f => .error (.invalid path f)
      | .ok _ => .ok s

/-! ### Selecting -/

/-- The ways in which the search for suites fails. -/
inductive DiscoveryFault where
  | missingPath (path : String)
  | badPattern (pattern : String)
  | unscannable (path : String) (fault : FileFault)
  | badSuite (path : String) (fault : SuiteFault)

/-- The message of a fault. -/
def DiscoveryFault.message : DiscoveryFault → String
  | missingPath p => "Search path does not exist: " ++ p
  | badPattern p => "Invalid test filter '" ++ p ++ "': malformed pattern"
  | unscannable p f => "Failed to scan " ++ p ++ ": " ++ f.message
  | badSuite p f => "Invalid suite file " ++ p ++ ": " ++ f.message

/-- The type that stands for every type. -/
def allTypes : String := "all"

/-- What to look for: suite files of a type, below some paths, and in them the cases that a pattern describes. -/
structure Selection where
  searchPaths : List String
  testType : String
  pattern : Option String

/-- Reads the pattern. -/
def Selection.glob (s : Selection) : Except DiscoveryFault (Option Glob) :=
  match s.pattern with
  | none => .ok none
  | some p =>
    match Glob.ofText? p.toList with
    | some g => .ok (some g)
    | none => .error (.badPattern p)

/-- Holds when a pattern describes a case by its name, or by the names of suite and case with a dot in between. -/
def selects (glob : Option Glob) (suite : String) (c : TestCase) : Bool :=
  match glob with
  | none => true
  | some g => g.matches c.name.toList || g.matches (suite ++ "." ++ c.name).toList

/-- The paths of suite files below a directory, names in order; hidden directories are passed over.  The walk ends at
the first directory that cannot be listed.  No path is longer than `fuel` names. -/
def suitePathsBelow (files : FileTree) : Nat → String → Except FileFault (List String)
  | 0, _ => .ok []
  | fuel + 1, dir => do
    let found ← (← files.list dir).mapM fun name =>
      let path := Path.join dir name
      if files.isDirectory path then
        if name.toList.head? = some '.' then .ok [] else suitePathsBelow files fuel path
      else .ok (if isSuitePath path then [path] else [])
    return found.flatten

/-- The suite files below a search path; one that is a file is taken as it is. -/
def suitePathsAt (files : FileTree) (root : String) : Except DiscoveryFault (List String) :=
  if !files.exists? root then .error (.missingPath root)
  else if files.isFile root then .ok [root]
  else (suitePathsBelow files (files.entries.length + 1) root).mapError (.unscannable root)

/-- The suite files below the search paths. -/
def suitePaths (files : FileTree) (roots : List String) : Except DiscoveryFault (List String) :=
  (roots.mapM (suitePathsAt files)).map List.flatten

/-- Holds when the name of a file says that it holds a suite of the type. -/
def hasType (type path : String) : Bool :=
  match (Path.stem? path).bind splitStem? with
  | none => false
  | some (t, _) => type == allTypes || type == t

/-- Loads suites in order.  Of suites with the same name the first one counts; cases that the pattern does not
describe are left out, and so are suites without cases. -/
def loadSuites (files : FileTree) (glob : Option Glob) (seen : List String) :
    List String → Except DiscoveryFault (List Suite)
  | [] => .ok []
  | path :: paths =>
    match loadSuite files path with
    | .error f => .error (.badSuite path f)
    | .ok s =>
      if seen.contains s.name then loadSuites files glob seen paths
      else
        let cases := s.cases.filter (selects glob s.name)
        let rest := loadSuites files glob (s.name :: seen) paths
        if cases.isEmpty then rest else rest.map ({ s with cases := cases } :: ·)

/-- Suites by name. -/
def sortSuites (suites : List Suite) : List Suite := suites.mergeSort fun a b => !(b.name < a.name)

/-- Finds suites below the search paths, or loads the files that are given. -/
def discover (files : FileTree) (s : Selection) (given : Option (List String)) :
    Except DiscoveryFault (List Suite) := do
  let glob ← s.glob
  let paths ←
    match given with
    | some paths => pure paths
    | none => (suitePaths files s.searchPaths).map (·.filter (hasType s.testType))
  return sortSuites (← loadSuites files glob [] paths)

end SuiteRunner
