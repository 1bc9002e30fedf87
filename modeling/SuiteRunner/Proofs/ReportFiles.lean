import SuiteRunner.Proofs.FileChanges
import SuiteRunner.Proofs.JunitReport
import SuiteRunner.Proofs.SafeNames
import SuiteRunner.Proofs.Utf8Reading

/-!
# The files of the reports of a run

The reports of a run are written one after another into one directory.  The file of a report is
called after the suite, by a name that was made safe, and suites with one safe name have one file.

* `Junit.writeEach_cons` is the step, `Junit.writeEach_append` and `Junit.readBytes_writeEach` the
  run: what is in a file stays there until a suite with the same safe name is written;
* **`Junit.reports_written`** — the paths are different exactly if the safe names are, and a file
  holds the report of the last suite with its name;
* `Junit.twinSuites_share_report`, two suites with different names of which one report is left.
-/

namespace SuiteRunner.Junit

open SuiteRunner.Path

variable {dir host : String} {files files' : FileTree} {paths : List String}

/-! ### Paths -/

theorem isName_xml (name : String) : IsName (fileSafe name ++ ".xml") :=
  isName_fileSafe_append name (by decide) (by decide)

/-- **Suites have one path exactly if they have one safe name.** -/
theorem path_eq_iff (dir a b : String) : path dir a = path dir b ↔ fileSafe a = fileSafe b := by
  constructor
  · intro h
    have hlists := congrArg String.toList h
    rw [path, path, toList_join dir (isName_xml a).relative, toList_join dir (isName_xml b).relative,
      List.append_cancel_left_eq, String.toList_inj] at hlists
    exact (String.append_left_inj ".xml").1 hlists
  · intro h
    rw [path, path, h]

/-! ### Writing one report after another -/

/-- The bytes of the report of a suite; the outputs of its cases are taken from the files. -/
def content (files : FileTree) (host : String) (s : SuiteSummary) : Bytes :=
  Utf8.encode (render files host s).toList

/-- Writing the reports is writing the first one and then the others. -/
theorem writeEach_cons {s : SuiteSummary} {rest : List SuiteSummary} :
    writeEach dir host files (s :: rest) = .ok (paths, files') ↔
      ∃ mid ps, files.write (path dir s.suite) (content files host s) = .ok mid ∧
        writeEach dir host mid rest = .ok (ps, files') ∧ paths = path dir s.suite :: ps := by
  simp only [writeEach, bind_eq_ok, mapError_eq_ok, content]
  constructor
  · rintro ⟨mid, hwrite, ⟨ps, last⟩, hrest, h⟩
    cases h
    exact ⟨mid, ps, hwrite, hrest, rfl⟩
  · rintro ⟨mid, ps, hwrite, hrest, rfl⟩
    exact ⟨mid, hwrite, (ps, files'), hrest, rfl⟩

theorem writeEach_append {before after : List SuiteSummary}
    (h : writeEach dir host files (before ++ after) = .ok (paths, files')) :
    ∃ ps mid qs, writeEach dir host files before = .ok (ps, mid) ∧
      writeEach dir host mid after = .ok (qs, files') := by
  induction before generalizing files paths with
  | nil => exact ⟨[], files, paths, rfl, h⟩
  | cons s before ih =>
    obtain ⟨next, ps, hwrite, hrest, -⟩ := writeEach_cons.1 h
    obtain ⟨ps, mid, qs, hbefore, hafter⟩ := ih hrest
    exact ⟨_, mid, qs, writeEach_cons.2 ⟨next, ps, hwrite, hbefore, rfl⟩, hafter⟩

theorem paths_of_writeEach {suites : List SuiteSummary}
    (h : writeEach dir host files suites = .ok (paths, files')) :
    paths = suites.map fun s => path dir s.suite := by
  induction suites generalizing files paths with
  | nil =>
    cases h
    rfl
  | cons s rest ih =>
    obtain ⟨mid, ps, -, hrest, rfl⟩ := writeEach_cons.1 h
    rw [ih hrest, List.map_cons]

/-- **A report stays in its file** until a suite with the same safe name is written. -/
theorem readBytes_writeEach {suites : List SuiteSummary} {name : String} {old : Bytes}
    (h : writeEach dir host files suites = .ok (paths, files'))
    (others : ∀ s ∈ suites, fileSafe s.suite ≠ fileSafe name)
    (hread : files.readBytes (path dir name) = .ok old) :
    files'.readBytes (path dir name) = .ok old := by
  induction suites generalizing files paths with
  | nil =>
    cases h
    exact hread
  | cons s rest ih =>
    obtain ⟨mid, ps, hwrite, hrest, -⟩ := writeEach_cons.1 h
    have hne : fileSafe s.suite ++ ".xml" ≠ fileSafe name ++ ".xml" := fun heq =>
      others s List.mem_cons_self ((String.append_left_inj ".xml").1 heq)
    refine ih hrest (fun t ht => others t (List.mem_cons_of_mem s ht)) ?_
    exact FileTree.readBytes_write_of_ne (isName_xml _) (isName_xml _) hne hwrite hread

/-! ### The reports of a run -/

theorem writeAll_eq_ok {run : RunSummary} :
    writeAll dir host files run = .ok (paths, files') ↔
      ∃ made, files.createDirectories dir = .ok made ∧
        writeEach dir host made run.suites = .ok (paths, files') := by
  simp only [writeAll, bind_eq_ok, mapError_eq_ok]

/-- **The reports of a run, once they are written.**  There is one path for each suite, in order, and
the paths are different exactly if the safe names of the suites are.  A file holds the report of the
last suite with its safe name, as it was written after the reports of the suites before it. -/
theorem reports_written {run : RunSummary}
    (h : writeAll dir host files run = .ok (paths, files')) :
    paths = run.suites.map (fun s => path dir s.suite) ∧
    (paths.Nodup ↔ (run.suites.map fun s => fileSafe s.suite).Nodup) ∧
    ∀ before s after, run.suites = before ++ s :: after →
      (∀ later ∈ after, fileSafe later.suite ≠ fileSafe s.suite) →
      ∃ ps mid, writeAll dir host files { run with suites := before } = .ok (ps, mid) ∧
        files'.readBytes (path dir s.suite) = .ok (Utf8.encode (render mid host s).toList) := by
  obtain ⟨made, hmade, hsuites⟩ := writeAll_eq_ok.1 h
  have hpaths := paths_of_writeEach hsuites
  refine ⟨hpaths, ?_, fun before s after hsplit hlater => ?_⟩
  · rw [hpaths, List.nodup_iff_pairwise_ne, List.nodup_iff_pairwise_ne, List.pairwise_map,
      List.pairwise_map]
    simp only [ne_eq, path_eq_iff]
  · rw [hsplit] at hsuites
    obtain ⟨ps, mid, qs, hbefore, hrest⟩ := writeEach_append hsuites
    obtain ⟨next, qs, hwrite, hafter, -⟩ := writeEach_cons.1 hrest
    refine ⟨ps, mid, writeAll_eq_ok.2 ⟨made, hmade, hbefore⟩, ?_⟩
    exact readBytes_writeEach hafter hlater (FileTree.readBytes_write_self hwrite)

/-! ### Two runs -/

/-- A suite with one case, which passed. -/
def passedSuite (name : String) : SuiteSummary :=
  SuiteSummary.ofResults name name ⟨0, 0⟩ [CaseResult.plain name name "c" .pass]

/-- A run of two suites with one case each. -/
def runOfTwo (name name' : String) : RunSummary :=
  RunSummary.ofSuites [passedSuite name, passedSuite name'] false

/-- The reports of suites with different safe names are both left. -/
theorem otherSuites_reported :
    ∃ files', writeAll "xml" "h" ⟨[], []⟩ (runOfTwo "a" "b") =
        .ok (["xml/a.xml", "xml/b.xml"], files') ∧
      ∃ mid, files'.readBytes "xml/a.xml" =
        .ok (Utf8.encode (render mid "h" (passedSuite "a")).toList) := by
  have hpaths : (writeAll "xml" "h" ⟨[], []⟩ (runOfTwo "a" "b")).map (·.1) =
      .ok ["xml/a.xml", "xml/b.xml"] := by decide +kernel
  obtain ⟨⟨paths, files'⟩, h, hfst⟩ := map_eq_ok.1 hpaths
  cases hfst
  refine ⟨files', h, ?_⟩
  obtain ⟨-, -, hreport⟩ := reports_written h
  obtain ⟨-, mid, -, hread⟩ := hreport [] (passedSuite "a") [passedSuite "b"] rfl (by decide)
  exact ⟨mid, hread⟩

/-- **Two suites with different names of which one report is left**: both are written to the file
with their safe name, and what is read there is no report of the first one. -/
theorem twinSuites_share_report :
    "a b" ≠ "a_b" ∧
    ∃ files', writeAll "xml" "h" ⟨[], []⟩ (runOfTwo "a b" "a_b") =
        .ok (["xml/a_b.xml", "xml/a_b.xml"], files') ∧
      ∀ mid, files'.readBytes "xml/a_b.xml" ≠
        .ok (Utf8.encode (render mid "h" (passedSuite "a b")).toList) := by
  refine ⟨by decide, ?_⟩
  have hpaths : (writeAll "xml" "h" ⟨[], []⟩ (runOfTwo "a b" "a_b")).map (·.1) =
      .ok ["xml/a_b.xml", "xml/a_b.xml"] := by decide +kernel
  obtain ⟨⟨paths, files'⟩, h, hfst⟩ := map_eq_ok.1 hpaths
  cases hfst
  refine ⟨files', h, fun mid hread => ?_⟩
  -- The last thing that was written is the report of the other suite.
  obtain ⟨made, -, hsuites⟩ := writeAll_eq_ok.1 h
  obtain ⟨first, qs, -, hrest, -⟩ := writeEach_cons.1 hsuites
  obtain ⟨last, ps, hwrite, hnil, -⟩ := writeEach_cons.1 hrest
  cases hnil
  have hlast : files'.readBytes "xml/a_b.xml" = .ok (content first "h" (passedSuite "a_b")) :=
    FileTree.readBytes_write_self hwrite
  rw [hlast, content, Except.ok.injEq] at hread
  have hname := cleaned_eq_of_render_eq (String.toList_inj.1 (Utf8.encode_injective hread))
  exact absurd hname (by decide +kernel)

end SuiteRunner.Junit
