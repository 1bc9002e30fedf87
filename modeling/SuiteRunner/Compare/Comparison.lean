import SuiteRunner.Compare.Filter

/-!
# Comparing outputs

An output is compared with its reference line by line, after both have been prepared as the mode says.

Main definitions:

* `CompareMode` and `prepare`, the lines that a mode compares;
* `pairUp`, the lines of two lists position by position;
* `Comparison` and `compareTexts`;
* `Comparison.render`, the listing of the first differences.
-/

namespace SuiteRunner

open Text

/-- How an output is judged against its reference. -/
inductive CompareMode where
  /-- The lines are equal. -/
  | exact
  /-- The lines are equal after sorting. -/
  | sorted
  /-- The lines are equal after filtering. -/
  | filtered
  /-- Nothing is compared. -/
  | none
  deriving DecidableEq, Repr

namespace CompareMode

/-- The name as suite files write it. -/
def name : CompareMode → String
  | exact => "exact"
  | sorted => "sorted"
  | filtered => "filtered"
  | none => "none"

/-- The name as messages show it. -/
def title : CompareMode → String
  | exact => "Exact"
  | sorted => "Sorted"
  | filtered => "Filtered"
  | none => "None"

/-- The mode of a name. -/
def ofName? : String → Option CompareMode
  | "exact" => some exact
  | "sorted" => some sorted
  | "filtered" => some filtered
  | "none" => some none
  | _ => Option.none

theorem ofName?_name (m : CompareMode) : ofName? m.name = some m := by
  cases m <;> rfl

end CompareMode

/-! ### Preparation -/

/-- The list without the empty lines at its end. -/
def dropTrailingBlanks (ls : List (List Char)) : List (List Char) :=
  (ls.reverse.dropWhile List.isEmpty).reverse

/-- The lines of a text without white space at their ends and without the empty lines at its end. -/
def normalize (text : List Char) : List (List Char) :=
  dropTrailingBlanks ((lines text).map trimEnd)

/-- The order of lines by their code points. -/
def lineLe : List Char → List Char → Bool
  | [], _ => true
  | _ :: _, [] => false
  | a :: s, b :: t => if a = b then lineLe s t else decide (a < b)

/-- The lines that a mode compares. -/
def prepare (mode : CompareMode) (filters : FilterSet) (text : List Char) : List (List Char) :=
  match mode with
  | .exact => normalize text
  | .sorted => (normalize text).mergeSort lineLe
  | .filtered => filters.apply text
  | .none => []

/-! ### Differences -/

/-- The elements of two lists position by position, as far as the longer one reaches. -/
def pairUp {α : Type} : List α → List α → List (Option α × Option α)
  | [], [] => []
  | a :: as, [] => (some a, none) :: pairUp as []
  | [], b :: bs => (none, some b) :: pairUp [] bs
  | a :: as, b :: bs => (some a, some b) :: pairUp as bs

/-- A position at which two lists of lines differ; positions count from 1. -/
structure Difference where
  line : Nat
  expected : Option (List Char)
  actual : Option (List Char)
  deriving DecidableEq, Repr

/-- The outcome of a comparison. -/
structure Comparison where
  differences : List Difference
  total : Nat
  expectedLines : Nat
  actualLines : Nat
  deriving DecidableEq, Repr

namespace Comparison

/-- The number of differences that are listed at most. -/
def listedLimit : Nat := 20

/-- The positions at which two lists differ, where the first of them has the number `n`. -/
def differencesFrom (n : Nat) : List (Option (List Char) × Option (List Char)) → List Difference
  | [] => []
  | (a, e) :: rest =>
    if a = e then differencesFrom (n + 1) rest else ⟨n, e, a⟩ :: differencesFrom (n + 1) rest

/-- Compares two lists of lines. -/
def ofLines (actual expected : List (List Char)) : Comparison :=
  let all := differencesFrom 1 (pairUp actual expected)
  ⟨all.take listedLimit, all.length, expected.length, actual.length⟩

/-- Holds when no position differs. -/
def holds (c : Comparison) : Bool := c.total == 0

/-- The listing of one difference. -/
def renderOne (d : Difference) : String :=
  "@@ line " ++ toString d.line ++ " @@\n" ++
    (match d.expected with
    | some l => "-" ++ String.ofList l ++ "\n"
    | none => "") ++
    (match d.actual with
    | some l => "+" ++ String.ofList l ++ "\n"
    | none => "")

/-- The listing of the differences, with the number of those left out. -/
def render (c : Comparison) : String :=
  String.join (c.differences.map renderOne) ++
    (if c.differences.length < c.total then
      "... " ++ toString (c.total - c.differences.length) ++ " more differing lines\n"
    else "")

end Comparison

/-- Compares an output with its reference. -/
def compareTexts (mode : CompareMode) (filters : FilterSet) (actual expected : List Char) : Comparison :=
  Comparison.ofLines (prepare mode filters actual) (prepare mode filters expected)

end SuiteRunner
