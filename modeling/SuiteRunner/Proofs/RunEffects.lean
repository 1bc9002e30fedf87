import SuiteRunner.Proofs.CaseRuns
import SuiteRunner.Proofs.TreeGrowth
import SuiteRunner.Result.Summary

/-!
# What a run does to files

To run a case means to create a directory, to write two empty captures, to let a machine run a
process, and perhaps to remove the captures.  What each of these effects keeps is kept by a run.

* `IsCapture`, the paths of captures, and `CaseResult.captures`, those that a result names;
* `Stable`, what every single effect keeps, with `stable_isRegular` and `stable_keepsFile`;
* **`Stable.run`** — what every effect keeps is kept when a case is run;
* **`Runner.mem_captures_run`** — a result names captures only, by paths that do not lead up.
-/

namespace SuiteRunner

open FileTree SuiteRunner.Path

/-! ### Captures -/

/-- The path of a capture. -/
def IsCapture (path : String) : Prop := Path.EndsWith path ".out" ∨ Path.EndsWith path ".err"

/-- The captures that a result names. -/
def CaseResult.captures (r : CaseResult) : List String := r.stdoutPath.toList ++ r.stderrPath.toList

theorem CaseResult.captures_withDuration (r : CaseResult) (elapsedMs : Nat) :
    (r.withDuration elapsedMs).captures = r.captures := rfl

/-- The captures that a summary names. -/
def RunSummary.captures (s : RunSummary) : List String :=
  (s.suites.flatMap SuiteSummary.results).flatMap CaseResult.captures

section Captures

variable (r : Runner) (files : FileTree) (s : Suite) (c : TestCase)

theorem isCapture_stdout : IsCapture (r.captureOf files s c).stdout :=
  .inl ⟨_, _, r.stdout_captureOf files s c, Runner.isName_out c.name⟩

theorem isCapture_stderr : IsCapture (r.captureOf files s c).stderr :=
  .inr ⟨_, _, r.stderr_captureOf files s c, Runner.isName_err c.name⟩

end Captures

/-! ### Effects -/

/-- The files before and after a process are always related, if its output goes to captures. -/
def Machine.Respects (machine : Machine) (R : FileTree → FileTree → Prop) : Prop :=
  ∀ ⦃t launch outcome t'⦄, IsCapture launch.capture.stdout → IsCapture launch.capture.stderr →
    machine t launch = .ok (outcome, t') → R t t'

/-- No process leaves a file outside of a directory. -/
def Machine.KeepsRegular (machine : Machine) : Prop :=
  Machine.Respects machine fun t t' => t.IsRegular → t'.IsRegular

/-- The property is kept by everything that happens to files when cases are run. -/
structure Stable (machine : Machine) (P : FileTree → Prop) : Prop where
  directories : ∀ {t path t'}, t.createDirectories path = .ok t' → P t → P t'
  write : ∀ {t path t'}, IsCapture path → t.write path [] = .ok t' → P t → P t'
  remove : ∀ {t path t'}, IsCapture path → t.remove path = .ok t' → P t → P t'
  process : Machine.Respects machine fun t t' => P t → P t'

namespace Stable

variable {machine : Machine} {P : FileTree → Prop} {files : FileTree}

theorem discard (stable : Stable machine P) {path : String} (hpath : IsCapture path)
    (h : P files) : P (Runner.discard files path) := by
  rw [Runner.discard]
  cases hremove : files.remove path with
  | error fault => exact h
  | ok left => exact stable.remove hpath hremove h

theorem runCommand (stable : Stable machine P) (command : Command) {capture : Capture}
    (hout : IsCapture capture.stdout) (herr : IsCapture capture.stderr) (limit : Nat)
    (h : P files) : P (runCommand machine files command capture limit).2 := by
  rw [SuiteRunner.runCommand]
  split
  · exact h
  · rename_i mid hmid
    have hP := stable.write hout hmid h
    split
    · exact hP
    · rename_i ready hready
      have hP := stable.write herr hready hP
      split
      · exact hP
      · rename_i outcome left hmachine
        exact stable.process hout herr hmachine hP

/-- **What every effect keeps is kept when a case is run.** -/
theorem run (stable : Stable machine P) (r : Runner) (s : Suite) (c : TestCase) (elapsedMs : Nat)
    (h : P files) : P (r.run machine files s c elapsedMs).2 := by
  cases hskip : skipReason? r.config r.install s c with
  | some reason => rwa [Runner.run_of_skipped hskip]
  | none =>
    rw [Runner.run_of_unskipped hskip, Runner.execute]
    split
    · exact h
    · rename_i made hmade
      have hout := isCapture_stdout r made s c
      have herr := isCapture_stderr r made s c
      have hended := stable.runCommand (r.commandOf (r.placeholdersOf made s c) c) hout herr
        (r.timeoutOf s c) (stable.directories hmade h)
      dsimp only
      generalize SuiteRunner.runCommand machine made _ _ _ = ended at hended ⊢
      obtain ⟨fault | outcome, left⟩ := ended
      · exact hended
      · dsimp only
        rw [Runner.tidy]
        split
        · exact stable.discard herr (stable.discard hout hended)
        · exact hended

end Stable

/-- Trees stay regular if the machine keeps them so. -/
theorem stable_isRegular {machine : Machine} (process : Machine.KeepsRegular machine) :
    Stable machine IsRegular where
  directories h regular := (grown_of_createDirectories h).isRegular regular
  write _ h regular := regular.write h
  remove _ h regular := regular.remove h
  process := process

/-- **A file whose extension is not that of a capture stays** if the machine leaves it alone. -/
theorem stable_keepsFile {machine : Machine} {l : Location} {extension : String}
    (hl : l.EndsWith extension) (out : Apart ".out" extension) (err : Apart ".err" extension)
    (process : Machine.Respects machine (KeepsFile l)) (t₀ : FileTree) :
    Stable machine (KeepsFile l t₀) where
  directories h keeps := keeps.trans ((grown_of_createDirectories h).keepsFile l)
  write hpath h keeps := by
    rcases hpath with hpath | hpath
    · exact keeps.trans (keepsFile_of_write h hpath hl out)
    · exact keeps.trans (keepsFile_of_write h hpath hl err)
  remove hpath h keeps := by
    obtain ⟨k, hlocate, same, -⟩ := sameBut_of_remove h
    rcases hpath with hpath | hpath
    · exact keeps.trans (same.keepsFile ((endsWith_of_locate hpath hlocate).ne hl out).symm)
    · exact keeps.trans (same.keepsFile ((endsWith_of_locate hpath hlocate).ne hl err).symm)
  process _ _ _ _ hout herr h keeps := keeps.trans (process hout herr h)

/-! ### Named captures -/

/-- The path of a location does not lead up. -/
theorem Location.up_notMem_pieces {l : Location} (names : ∀ name ∈ l, IsName name) :
    up ∉ pieces l.path := by
  by_cases hl : l = []
  · subst hl
    decide
  · have hbelow := below_path (l := []) (by simp [IsProper]) hl fun name hname =>
      ⟨(names name hname).1, (names name hname).2.1, (names name hname).2.2.2⟩
    obtain ⟨rest, hrelative, hup, hpath⟩ := hbelow
    rw [List.nil_append] at hpath
    rw [hpath, pieces_join _ hrelative, List.mem_append, not_or]
    exact ⟨by decide, hup⟩

namespace FileTree

variable {t t' : FileTree} {dir name : String} {content : Bytes}

/-- What is found from a working directory of names is at a location of names. -/
theorem isName_of_find {l : Location} {e : Entry} (working : ∀ name ∈ t.working, IsName name)
    (h : t.find dir = .ok (l, e)) : ∀ name ∈ l, IsName name := by
  intro name hname
  rcases mem_of_follow (locate_eq_ok.1 (find_eq_ok.1 h).1).2 hname with hmem | ⟨hmem, hplain⟩
  · rw [origin] at hmem
    split at hmem
    · cases hmem
    · exact working name hmem
  · obtain ⟨p, hp, rfl⟩ := List.mem_map.1 hmem
    refine ⟨hplain.1, ?_, hplain.2⟩
    rw [String.toList_ofList]
    exact Text.notMem_of_mem_splitOn (pieces_eq dir ▸ hp)

/-- **The absolute path of a directory into which a file was written** does not lead up. -/
theorem up_notMem_of_write (regular : t.IsRegular) (hname : IsName name)
    (h : t.write (join (t.absolute dir) name) content = .ok t') :
    up ∉ lead (t.absolute dir) := by
  cases hfind : t.find dir with
  | ok found =>
    obtain ⟨l, e⟩ := found
    rw [absolute_of_find hfind]
    exact mt mem_of_mem_lead (Location.up_notMem_pieces (isName_of_find regular.working hfind))
  | error fault =>
    rw [absolute_of_error hfind] at h ⊢
    by_cases hdir : dir = ""
    · subst hdir
      decide
    · -- A file cannot be written into a directory that is not found.
      obtain ⟨l, hlocate, same, hentry⟩ := sameBut_of_write h
      obtain ⟨base, hbase, -⟩ := find_join hdir hname.relative
        (find_eq_ok.2 ⟨same.locate_iff.2 hlocate, hentry⟩)
      have hfound := find_eq_ok.2 ⟨same.locate_iff.1 (find_eq_ok.1 hbase).1,
        same.directory_iff.1 (find_eq_ok.1 hbase).2⟩
      rw [hfind] at hfound
      cases hfound

end FileTree

/-- A verdict names the captures of its case, if any. -/
theorem Verdict.mem_captures {v : Verdict} {s : Suite} {c : TestCase} {capture : Capture}
    {keep : Bool} {p : String} (h : p ∈ (v.result s c capture keep).captures) :
    p = capture.stdout ∨ p = capture.stderr := by
  rw [CaseResult.captures, Verdict.result] at h
  dsimp only at h
  split at h
  · simpa using h
  · cases h

/-- **A result names captures only**, by paths that do not lead up. -/
theorem Runner.mem_captures_run {r : Runner} {machine : Machine} {files : FileTree} {s : Suite}
    {c : TestCase} {elapsedMs : Nat} (regular : files.IsRegular) :
    ∀ p ∈ (r.run machine files s c elapsedMs).1.captures, IsCapture p ∧ up ∉ pieces p := by
  intro p hp
  cases hskip : skipReason? r.config r.install s c with
  | some reason =>
    rw [Runner.run_of_skipped hskip] at hp
    cases hp
  | none =>
    rw [Runner.run_of_unskipped hskip, CaseResult.captures_withDuration, Runner.execute] at hp
    split at hp
    · cases hp
    · rename_i made hmade
      dsimp only at hp
      generalize hended : runCommand machine made _ _ _ = ended at hp
      obtain ⟨fault | outcome, left⟩ := ended
      · cases hp
      · -- The process was started, so the first capture was written.
        obtain ⟨mid, -, hout, -⟩ := runCommand_eq_ok hended
        rw [stdout_captureOf] at hout
        have hlead := up_notMem_of_write ((grown_of_createDirectories hmade).isRegular regular)
          (isName_out c.name) hout
        rcases Verdict.mem_captures hp with rfl | rfl
        · refine ⟨isCapture_stdout r made s c, ?_⟩
          rw [stdout_captureOf, pieces_join _ (isName_out c.name).relative, List.mem_append, not_or]
          exact ⟨hlead, (isName_out c.name).up_notMem⟩
        · refine ⟨isCapture_stderr r made s c, ?_⟩
          rw [stderr_captureOf, pieces_join _ (isName_err c.name).relative, List.mem_append, not_or]
          exact ⟨hlead, (isName_err c.name).up_notMem⟩

end SuiteRunner
