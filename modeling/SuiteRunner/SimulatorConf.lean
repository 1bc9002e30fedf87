import SuiteRunner.Environment
import SuiteRunner.FileTree
import SuiteRunner.Text.Line

/-!
# The record of a simulator installation

The simulator records its settings and its element libraries in a file of sections with keys and values.  Lines that
are blank or start with a number sign or a semicolon do not count.  A line that starts with a blank goes on with the
value before it in the section, if there is one.

Main definitions:

* `ConfLine`, what a line says by itself;
* `SimulatorConf`, `SimulatorConf.parse`, and `ConfError`, the ways in which a line is at fault;
* `get?`, `sectionNames` and `hasElement`;
* `locate?`, where the file is.
-/

namespace SuiteRunner

open Text

/-! ### Lines -/

/-- What a line says by itself, without the white space at its ends. -/
inductive ConfLine where
  | idle
  | header (name : List Char)
  | openHeader
  | entry (key value : List Char)
  | noSeparator
  deriving DecidableEq, Repr

/-- Reads a line that has no white space at its ends. -/
def ConfLine.ofTrimmed : List Char → ConfLine
  | [] => idle
  | '#' :: _ | ';' :: _ => idle
  | '[' :: rest =>
    match rest.reverse with
    | ']' :: name => header (trim name.reverse)
    | _ => openHeader
  | line =>
    match line.dropWhile fun c => c != '=' && c != ':' with
    | [] => noSeparator
    | _ :: value => entry (trim (line.takeWhile fun c => c != '=' && c != ':')) (trim value)

/-- Holds for a line that starts with a blank. -/
def isIndented (line : List Char) : Bool := line.head? = some ' ' || line.head? = some '\t'

/-! ### The record -/

/-- A section with its keys and their values. -/
structure ConfSection where
  name : List Char
  entries : List (List Char × List Char)
  deriving DecidableEq, Repr

/-- The sections of a file, in the order in which they start. -/
structure SimulatorConf where
  sections : List ConfSection
  deriving DecidableEq, Repr

/-- The ways in which a line is at fault. -/
inductive ConfFault where
  | openHeader (line : List Char)
  | outsideSection
  | noSeparator (line : List Char)
  | emptyKey
  deriving DecidableEq, Repr

/-- The message of a fault. -/
def ConfFault.message : ConfFault → String
  | openHeader l => "unterminated section header: " ++ String.ofList l
  | outsideSection => "key outside of any section"
  | noSeparator l => "expected 'key = value', found: " ++ String.ofList l
  | emptyKey => "empty key"

/-- A fault with the number of its line; lines count from 1. -/
structure ConfError where
  line : Nat
  fault : ConfFault
  deriving DecidableEq, Repr

/-- The message of an error. -/
def ConfError.message (e : ConfError) : String := "Line " ++ toString e.line ++ ": " ++ e.fault.message

namespace SimulatorConf

/-- No sections. -/
def empty : SimulatorConf := ⟨[]⟩

/-- The section of a name. -/
def section? (c : SimulatorConf) (name : List Char) : Option ConfSection := c.sections.find? (·.name == name)

/-- The value of a key in a section. -/
def get? (c : SimulatorConf) (sectionName key : List Char) : Option (List Char) :=
  (c.section? sectionName).bind fun s => s.entries.lookup key

/-- The names of the sections, sorted. -/
def sectionNames (c : SimulatorConf) : List (List Char) :=
  (c.sections.map ConfSection.name).mergeSort fun a b => !(b < a)

/-- The sections that list element libraries. -/
def elementSections : List (List Char) := ["SST_ELEMENT_SOURCE".toList, "SST_ELEMENT_TESTS".toList]

/-- Holds when an element library is installed. -/
def hasElement (c : SimulatorConf) (name : List Char) : Bool :=
  elementSections.any fun s => (c.get? s name).isSome

/-- The entries with the value of a key changed; `change` gets the value that was there. -/
def setEntry (key : List Char) (change : Option (List Char) → List Char) :
    List (List Char × List Char) → List (List Char × List Char)
  | [] => [(key, change none)]
  | (k, v) :: rest => if k = key then (k, change (some v)) :: rest else (k, v) :: setEntry key change rest

/-- The sections with one of them changed; a section that is not there is added. -/
def setSection (name : List Char) (change : List (List Char × List Char) → List (List Char × List Char)) :
    List ConfSection → List ConfSection
  | [] => [⟨name, change []⟩]
  | s :: rest =>
    if s.name = name then { s with entries := change s.entries } :: rest else s :: setSection name change rest

/-- Starts a section, which may have been there before. -/
def startSection (c : SimulatorConf) (name : List Char) : SimulatorConf := ⟨setSection name id c.sections⟩

/-- Sets the value of a key. -/
def assign (c : SimulatorConf) (name key value : List Char) : SimulatorConf :=
  ⟨setSection name (setEntry key fun _ => value) c.sections⟩

/-- Adds a line to the value of a key. -/
def extend (c : SimulatorConf) (name key line : List Char) : SimulatorConf :=
  ⟨setSection name (setEntry key fun v => v.getD [] ++ '\n' :: line) c.sections⟩

/-! ### Reading -/

/-- What is known after some lines: the sections, the name of the open one, and the key of its last entry. -/
structure Progress where
  conf : SimulatorConf
  open? : Option (List Char)
  key? : Option (List Char)

/-- Reads a line. -/
def Progress.step (p : Progress) (line : List Char) : Except ConfFault Progress :=
  let text := trim line
  let statement := ConfLine.ofTrimmed text
  match statement, isIndented line, p.open?, p.key? with
  | .idle, _, _, _ => .ok p
  | _, true, some s, some k => .ok { p with conf := p.conf.extend s k text }
  | .header name, _, _, _ => .ok ⟨p.conf.startSection name, some name, none⟩
  | .openHeader, _, _, _ => .error (.openHeader text)
  | _, _, none, _ => .error .outsideSection
  | .noSeparator, _, _, _ => .error (.noSeparator text)
  | .entry key value, _, some s, _ =>
    if key.isEmpty then .error .emptyKey else .ok { p with conf := p.conf.assign s key value, key? := some key }

/-- Reads lines, of which the first has the number `n`. -/
def Progress.run (p : Progress) (n : Nat) : List (List Char) → Except ConfError Progress
  | [] => .ok p
  | l :: ls =>
    match p.step l with
    | .error f => .error ⟨n, f⟩
    | .ok p => p.run (n + 1) ls

/-- Reads the record of an installation. -/
def parse (text : List Char) : Except ConfError SimulatorConf :=
  ((Progress.mk empty none none).run 1 (lines text)).map Progress.conf

/-! ### Files -/

/-- The ways in which the file cannot be loaded. -/
inductive LoadFault where
  | unreadable (path : String) (fault : FileFault)
  | malformed (error : ConfError)

/-- The message of a fault. -/
def LoadFault.message : LoadFault → String
  | unreadable p f => "Failed to read " ++ p ++ ": " ++ f.message
  | malformed e => e.message

/-- Loads the record of an installation. -/
def load (files : FileTree) (path : String) : Except LoadFault SimulatorConf :=
  match files.readText path with
  | .error f => .error (.unreadable path f)
  | .ok text => (parse text).mapError .malformed

/-- Where the file is: the path that is given, or else the one that a variable names, or else the one in the home
directory.  The last two have to exist. -/
def locate? (files : FileTree) (env : Environment) (given : Option String) : Option String :=
  match given with
  | some path => some path
  | none =>
    ((env.get? "SST_CONFIG_FILE").filter files.exists?) <|>
      ((env.home?.map fun home => Path.join (Path.join home ".sst") "sstsimulator.conf").filter files.exists?)

end SimulatorConf

end SuiteRunner
