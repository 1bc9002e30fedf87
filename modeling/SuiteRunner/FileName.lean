import SuiteRunner.Unicode.Property
import SuiteRunner.Text.Search

/-!
# Safe file names

`fileSafe` turns any text into one that is safe as a file name: characters that are neither alphanumeric nor one
of `-`, `_` and `.` become `_`, and no two dots follow one another.
-/

namespace SuiteRunner

open Unicode

/-- Characters that a file name keeps. -/
def isFileSafe (c : Char) : Bool := isAlphanumeric c || c = '-' || c = '_' || c = '.'

/-- The text with each pair of dots, from left to right, turned into two underscores. -/
def breakDots : List Char → List Char
  | '.' :: '.' :: s => '_' :: '_' :: breakDots s
  | c :: s => c :: breakDots s
  | [] => []

/-- A file name for any text. -/
def fileSafe (name : String) : String :=
  String.ofList (breakDots (name.toList.map fun c => if isFileSafe c then c else '_'))

end SuiteRunner
