import SuiteRunner.CommandLine.Commands
import SuiteRunner.Proofs.JsonReading
import SuiteRunner.Proofs.LoadedSuites

/-!
# What a listing shows

The lines of a listing are written in one loop over all cases.  The loop has no more of the suites
than their names: it writes the line of a suite when the name is another one than before.  What a
search finds has different names and is never without cases, so every suite has its line, once, and
its own cases are the ones below it.  For programs a listing is a document, which can be read again.

* `Listing.line` and `Listing.node`, a listed case for people and for programs;
* `Formatter.Shows`, what a listing of suites shows;
* `Formatter.listingLines_append` — the loop within a suite;
* `Formatter.listingLines_eq` — the loop over suites;
* **`Formatter.shows_listing`** — the listing shows every case, below the line of its suite.
-/

namespace SuiteRunner

namespace Listing

/-- A listed case on a line: why it is skipped, or else its model. -/
def line (colored : Bool) (l : Listing) : String :=
  match l.skip with
  | some reason =>
    "  " ++ (if colored then "\x1b[33m○\x1b[0m" else "○") ++ " " ++ l.name ++ " (" ++ reason ++ ")\n"
  | none => "  - " ++ l.name ++ " [" ++ l.model ++ "]\n"

/-- A listed case in a document that was read. -/
def node (l : Listing) : Node := .map [
  (.text "suite", .text l.suite), (.text "test_type", .text l.testType),
  (.text "name", .text l.name), (.text "model", .text l.model),
  (.text "skip", l.skip.elim .null .text)]

theorem node_toValue (l : Listing) : l.toValue.node = l.node := by
  obtain ⟨suite, testType, name, model, skip⟩ := l
  cases skip <;> rfl

theorem fits_toValue (l : Listing) : l.toValue.Fits := by
  obtain ⟨suite, testType, name, model, skip⟩ := l
  cases skip <;> simp [toValue, Value.textOrNull, Value.Fits, Value.FitMembers]

end Listing

namespace Formatter

variable {f : Formatter} {c : Config} {install : Option SimulatorConf} {suites : List Suite}

/-- The line of a suite, and below it the lines of its cases. -/
def suiteLines (f : Formatter) (c : Config) (install : Option SimulatorConf) (s : Suite) : String :=
  s.name ++ " [" ++ s.testType ++ "]\n" ++
    String.join ((Work.listingsOf c install [s]).map (Listing.line f.colored))

/-- **What a listing of suites shows.**  For people it has the lines of every suite, and how many
cases there are; for programs it is read as the list of all cases. -/
structure Shows (f : Formatter) (c : Config) (install : Option SimulatorConf) (suites : List Suite)
    (text : String) : Prop where
  lines : f.format = .table ∨ f.format = .summary →
    text = String.join (suites.map (f.suiteLines c install)) ++ "\n" ++
      toString (suites.flatMap Suite.cases).length ++ " tests\n"
  document : f.format = .json ∨ f.format = .jsonPretty →
    Json.read? text.toList = some (.list ((Work.listingsOf c install suites).map Listing.node))

/-! ### Lines -/

theorem listingLine_eq (f : Formatter) (l : Listing) : f.listingLine l = l.line f.colored := by
  rw [listingLine, Listing.line, paint]
  cases l.skip with
  | none => rfl
  | some reason => cases f.colored <;> rfl

/-- Cases of the suite whose line was the last one to be written come without another line. -/
theorem listingLines_append {name : String} {own : List Listing}
    (same : ∀ l ∈ own, l.suite = name) (rest : List Listing) :
    f.listingLines (some name) (own ++ rest) =
      String.join (own.map (Listing.line f.colored)) ++ f.listingLines (some name) rest := by
  induction own with
  | nil => rw [List.nil_append, List.map_nil, String.join_nil, String.empty_append]
  | cons l own ih =>
    have hown := ih fun l' hl' => same l' (List.mem_cons_of_mem l hl')
    have hname := same l List.mem_cons_self
    rw [List.cons_append, listingLines, hname, if_pos rfl, hown, listingLine_eq, List.map_cons,
      String.join_cons, String.empty_append, String.append_assoc]

/-- The cases of a suite come below its line, if another one was the last. -/
theorem listingLines_suite {s : Suite} {current : Option String} (cases : s.cases ≠ [])
    (another : current ≠ some s.name) (rest : List Listing) :
    f.listingLines current (Work.listingsOf c install [s] ++ rest) =
      f.suiteLines c install s ++ f.listingLines (some s.name) rest := by
  obtain ⟨l, own, hrows⟩ := List.exists_cons_of_ne_nil
    (show Work.listingsOf c install [s] ≠ [] by simpa [Work.listingsOf] using cases)
  have same : ∀ l' ∈ l :: own, l'.suite = s.name ∧ l'.testType = s.testType := by
    rw [← hrows]
    simp [Work.listingsOf]
  obtain ⟨hname, htype⟩ := same l List.mem_cons_self
  have hown := listingLines_append (f := f)
    (fun l' hl' => (same l' (List.mem_cons_of_mem l hl')).1) rest
  rw [suiteLines, hrows, List.cons_append, listingLines, hname, htype, if_neg another, hown,
    listingLine_eq, List.map_cons, String.join_cons]
  simp only [String.append_assoc]

/-- **Every suite has its line, with its cases below it.**  The induction is over the suites; the
suite whose line was the last is none of those to come. -/
theorem listingLines_eq {current : Option String} (names : (suites.map Suite.name).Nodup)
    (cases : ∀ s ∈ suites, s.cases ≠ []) (another : ∀ s ∈ suites, current ≠ some s.name) :
    f.listingLines current (Work.listingsOf c install suites) =
      String.join (suites.map (f.suiteLines c install)) := by
  induction suites generalizing current with
  | nil => rfl
  | cons s suites ih =>
    rw [List.map_cons, List.nodup_cons] at names
    have hrows : Work.listingsOf c install (s :: suites) =
        Work.listingsOf c install [s] ++ Work.listingsOf c install suites := by
      simp [Work.listingsOf]
    have hanother : ∀ s' ∈ suites, some s.name ≠ some s'.name := fun s' hs' h =>
      names.1 (List.mem_map.2 ⟨s', hs', (Option.some.inj h).symm⟩)
    have hrest := ih names.2 (fun s' hs' => cases s' (List.mem_cons_of_mem s hs')) hanother
    rw [hrows, listingLines_suite (cases s List.mem_cons_self) (another s List.mem_cons_self), hrest,
      List.map_cons, String.join_cons]

/-! ### Documents -/

theorem node_listings (ls : List Listing) :
    (Value.list (ls.map Listing.toValue)).node = .list (ls.map Listing.node) := by
  rw [Value.node, Value.nodes_eq_map, List.map_map]
  congr 1
  exact List.map_congr_left fun l _ => l.node_toValue

theorem fits_listings (ls : List Listing) : (Value.list (ls.map Listing.toValue)).Fits := by
  rw [Value.Fits, Value.fitAll_iff]
  intro v hv
  obtain ⟨l, -, rfl⟩ := List.mem_map.1 hv
  exact l.fits_toValue

theorem length_listingsOf (c : Config) (install : Option SimulatorConf) (suites : List Suite) :
    (Work.listingsOf c install suites).length = (suites.flatMap Suite.cases).length := by
  rw [Work.listingsOf, List.length_flatMap, List.length_flatMap]
  simp only [List.length_map]

/-- **A listing shows every case, below the line of its suite**, if the suites have different names
and none is without cases. -/
theorem shows_listing (f : Formatter) (c : Config) (install : Option SimulatorConf)
    (names : (suites.map Suite.name).Nodup) (cases : ∀ s ∈ suites, s.cases ≠ []) :
    f.Shows c install suites (f.listing (Work.listingsOf c install suites)) where
  lines hformat := by
    have hlisting : ∀ rows, f.listing rows =
        f.listingLines none rows ++ "\n" ++ toString rows.length ++ " tests\n" := by
      intro rows
      rcases hformat with hformat | hformat
      · rw [listing, hformat]
      · rw [listing, hformat]
    rw [hlisting, listingLines_eq names cases (by simp), length_listingsOf]
  document hformat := by
    rw [← node_listings]
    rcases hformat with hformat | hformat
    · rw [listing, hformat]
      exact Json.read?_compact (fits_listings _)
    · rw [listing, hformat]
      exact Json.read?_pretty (fits_listings _)

end Formatter

end SuiteRunner
