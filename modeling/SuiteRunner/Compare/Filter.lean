import SuiteRunner.Regex.Program
import SuiteRunner.Text.Search

/-!
# Line filters

Filters that prepare the lines of an output before it is compared: they drop lines or change them.

Main definitions:

* `Filter`, a filter as it is declared, and `LineFilter`, a filter that is ready to run;
* `FilterSet.compile`, which fails on the first regular expression that cannot be read;
* `LineFilter.run` on one line and `FilterSet.apply` on a text.
-/

namespace SuiteRunner

open Text

/-- A filter as a suite declares it. -/
inductive Filter where
  /-- Drops lines that start with the text. -/
  | startsWith (text : String)
  /-- Drops lines that contain the text. -/
  | contains (text : String)
  /-- Cuts the line after the first occurrence of the marker. -/
  | ignoreAllAfter (marker : String)
  /-- Deletes every match of the regular expression. -/
  | removeRegex (regex : String)
  /-- Replaces a text. -/
  | replace (old new : String)
  /-- Drops the first line if it starts with the text. -/
  | checkFirstLine (text : String)
  deriving DecidableEq, Repr

/-- A filter that is ready to run. -/
inductive LineFilter where
  | startsWith (text : List Char)
  | contains (text : List Char)
  | ignoreAllAfter (marker : List Char)
  | removeRegex (matcher : Regex.Matcher)
  | replace (old new : List Char)
  | checkFirstLine (text : List Char)

/-- Filters in the order in which they run. -/
abbrev FilterSet := List LineFilter

/-- Makes a filter ready. -/
def Filter.compile : Filter → Except Regex.Fault LineFilter
  | startsWith t => .ok (.startsWith t.toList)
  | contains t => .ok (.contains t.toList)
  | ignoreAllAfter m => .ok (.ignoreAllAfter m.toList)
  | removeRegex r => (Regex.Matcher.ofText r).map .removeRegex
  | replace old new => .ok (.replace old.toList new.toList)
  | checkFirstLine t => .ok (.checkFirstLine t.toList)

/-- A regular expression that cannot be read. -/
structure FilterError where
  regex : String
  fault : Regex.Fault

namespace FilterError

/-- The report of the fault. -/
def message (e : FilterError) : String := e.fault.report e.regex.toList

end FilterError

namespace FilterSet

/-- Makes the filters ready, up to the first one that cannot be. -/
def compile : List Filter → Except FilterError FilterSet
  | [] => .ok []
  | f :: fs =>
    match f.compile with
    | .error e => .error ⟨match f with | .removeRegex r => r | _ => "", e⟩
    | .ok g => (compile fs).map (g :: ·)

end FilterSet

namespace LineFilter

/-- The line up to and with the first occurrence of the marker. -/
def cutAfter (marker line : List Char) : List Char :=
  match splitAt? marker line with
  | none => line
  | some (before, _) => before ++ marker

/-- Runs a filter on a line; `first` holds for the first line of a text.  The result is `none` when the line is
dropped. -/
def run (first : Bool) (line : List Char) : LineFilter → Option (List Char)
  | startsWith t => if Text.startsWith line t then none else some line
  | contains t => if Text.contains line t then none else some line
  | ignoreAllAfter m => some (cutAfter m line)
  | removeRegex m => some (m.program.removeAll line)
  | replace old new => some (replaceAll old new line)
  | checkFirstLine t => if first && Text.startsWith line t then none else some line

/-- Runs filters one after another. -/
def runAll (first : Bool) : List LineFilter → List Char → Option (List Char)
  | [], line => some line
  | f :: fs, line => (f.run first line).bind (runAll first fs)

end LineFilter

namespace FilterSet

/-- Runs the filters on a line; white space at its end does not count before or after, and a line left empty is
dropped. -/
def applyLine (filters : FilterSet) (first : Bool) (line : List Char) : Option (List Char) :=
  ((LineFilter.runAll first filters (trimEnd line)).map trimEnd).filter (!·.isEmpty)

/-- The lines of a text that the filters leave. -/
def apply (filters : FilterSet) (text : List Char) : List (List Char) :=
  match lines text with
  | [] => []
  | line :: rest => (filters.applyLine true line).toList ++ rest.filterMap (filters.applyLine false)

end FilterSet

end SuiteRunner
