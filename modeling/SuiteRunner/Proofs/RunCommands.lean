import SuiteRunner.Proofs.CommandSteps
import SuiteRunner.Proofs.ConfigRanges
import SuiteRunner.Proofs.CourseResults
import SuiteRunner.Proofs.ReportAgain
import SuiteRunner.Proofs.RunStores

/-!
# What a run command does

A run command makes a plan: its configuration, its suites, and the files on which they run.  It
follows the course of the plan to its end, prints the summary, writes the reports, and then saves
the record of the run.

* `RunPlan`, with `RunPlan.course`, `RunPlan.last` and `RunPlan.record`;
* `RunPlan.Closed`, what is done when the course has ended;
* **`RunPlan.exists_closed`** — a run command that does not fail has made a plan and has closed it.
-/

namespace SuiteRunner

/-! ### Plans -/

/-- The course that a command runs. -/
def Site.courseOf (site : Site) (c : Config) (format : OutputFormat) (suites : List Suite)
    (install : Option SimulatorConf) : Course where
  suites := suites
  runner := ⟨c, install⟩
  machine := site.machine
  schedule := site.schedule
  clock := site.clock
  progress := if format.showsProgress then some (site.formatter format) else none

/-- The record of a course that has come to the state. -/
def Site.recordOf (site : Site) (course : Course) (last : Course.State) : StoredRun where
  id := StoredRun.nameAt (site.clock last.turns) 0
  startedAt := site.clock 0
  completedAt := site.clock last.turns
  summary := Course.State.summary course last
  config := course.runner.config
  platform := site.platform

/-- What a run command finds before cases run. -/
structure RunPlan (site : Site) (g : Globals) (r : RunRequest) (files : FileTree) where
  base : Config
  format : OutputFormat
  suites : List Suite
  install : Option SimulatorConf
  /-- The files with the output directory. -/
  made : FileTree
  resolved : Config.resolve files site.environment g.settingsFile g.profile = .ok base
  named : OutputFormat.ofName? r.format = some format
  /-- The output directory is created twice. -/
  created : ∃ first, files.createDirectories (r.applyTo base).outputDir = .ok first ∧
    first.createDirectories (r.applyTo base).outputDir = .ok made
  selected : discover made
    ⟨(r.applyTo base).searchPaths, (r.applyTo base).testType, (r.applyTo base).pattern⟩
    (if r.selection.suiteFiles.isEmpty then none else some r.selection.suiteFiles) = .ok suites
  installed : match SimulatorConf.locate? made site.environment (r.applyTo base).installFile with
    | none => install = none
    | some path => ∃ conf, SimulatorConf.load made path = .ok conf ∧ install = some conf

namespace RunPlan

variable {site : Site} {g : Globals} {r : RunRequest} {files : FileTree}

section Parts

variable (p : RunPlan site g r files)

/-- The configuration of the run. -/
def config : Config := r.applyTo p.base

/-- The course of the run. -/
def course : Course := site.courseOf p.config p.format p.suites p.install

/-- The state in which the run has ended. -/
def last : Course.State := p.course.run p.made

/-- The record of the run. -/
def record : StoredRun := site.recordOf p.course p.last

/-- The results of the run. -/
def results : List CaseResult := p.record.summary.suites.flatMap SuiteSummary.results

/-- The runs that are saved in the output directory. -/
def store : RunStore := .ofOutput p.config.outputDir

end Parts

/-- A command makes one plan only. -/
instance : Subsingleton (RunPlan site g r files) where
  allEq p p' := by
    obtain ⟨base, format, suites, install, made, hbase, hformat, ⟨first, hfirst, hmade⟩, hsuites,
      hinstall⟩ := p
    obtain ⟨base', format', suites', install', made', hbase', hformat', ⟨first', hfirst', hmade'⟩,
      hsuites', hinstall'⟩ := p'
    cases hbase.symm.trans hbase'
    cases hformat.symm.trans hformat'
    cases hfirst.symm.trans hfirst'
    cases hmade.symm.trans hmade'
    cases hsuites.symm.trans hsuites'
    have hsame : install = install' := by
      revert hinstall hinstall'
      cases SimulatorConf.locate? made site.environment (r.applyTo base).installFile with
      | none => exact fun h h' => h.trans h'.symm
      | some path =>
        rintro ⟨conf, hconf, rfl⟩ ⟨conf', hconf', rfl⟩
        cases hconf.symm.trans hconf'
        rfl
    subst hsame
    rfl

/-- **What is done when the course of a run has ended**: the summary is printed after the progress,
the reports are written, and then the record is saved. -/
structure Closed (p : RunPlan site g r files) (reply : Reply) : Prop where
  saved : ∃ paths reported path,
    Junit.writeAll p.config.reports site.host p.last.files p.record.summary =
      .ok (paths, reported) ∧
    p.store.save reported p.record = .ok (path, reply.files)
  printed : reply.printed =
    p.last.printed ++ ((site.formatter p.format).run p.record.summary ++ "\n")
  status : reply.status =
    if p.last.isInterrupted then .interruption else .ofSummary p.record.summary

end RunPlan

/-! ### Steps -/

namespace Work

variable {site : Site} {g : Globals} {r : RunRequest} {d d' : Desk} {status : ExitStatus}

/-- What a command does when the course of a run has ended. -/
def closeRun (site : Site) (format : OutputFormat) (run : StoredRun) (last : Course.State) :
    Work ExitStatus := do
  setFiles last.files
  put last.printed
  putLine ((site.formatter format).run run.summary)
  writeReports site run.config.reports run.summary
  let (_, saved) ← expect .store ((RunStore.ofOutput run.config.outputDir).save (← files) run)
  setFiles saved
  return if last.isInterrupted then .interruption else .ofSummary run.summary

theorem runWith_eq (site : Site) (c : Config) (r : RunRequest) : runWith site c r = (do
    expect .config c.check
    let format ← formatNamed r.format
    createOutput c
    let suites ← suitesOf c r.selection
    let install ← installOf site c
    let course := site.courseOf c format suites install
    let last := course.run (← files)
    closeRun site format (site.recordOf course last) last) := rfl

/-- **A request to run cases makes a plan, and closes it when its course has ended.** -/
theorem runCases_eq_ok (h : runCases site g r d = .ok status d') :
    ∃ p : RunPlan site g r d.files,
      closeRun site p.format p.record p.last ⟨p.made, d.printed⟩ = .ok status d' := by
  simp only [runCases, runWith_eq, bind_eq_ok, baseConfig_eq_ok, createOutput_eq_ok, files_eq_ok,
    expect_eq_ok, formatNamed_eq_ok, suitesOf_eq_ok, installOf_eq_ok] at h
  obtain ⟨base, _, ⟨hbase, rfl⟩, _, _, ⟨first, hfirst, rfl⟩, _, _, ⟨-, rfl⟩, format, _,
    ⟨hformat, rfl⟩, _, _, ⟨_, hmade, rfl⟩, suites, _, ⟨hsuites, rfl⟩, install, _,
    ⟨hinstall, rfl⟩, made, _, ⟨rfl, rfl⟩, h⟩ := h
  exact ⟨⟨base, format, suites, install, made, hbase, hformat, ⟨first, hfirst, hmade⟩, hsuites,
    hinstall⟩, h⟩

theorem closed_of_closeRun {p : RunPlan site g r d.files} {reply : Reply}
    (h : closeRun site p.format p.record p.last ⟨p.made, ""⟩ = .ok reply.status d')
    (hfiles : reply.files = d'.files) (hprinted : reply.printed = d'.printed) :
    p.Closed reply := by
  simp only [closeRun, bind_eq_ok, files_eq_ok, expect_eq_ok, setFiles_eq_ok, put_eq_ok,
    putLine_eq_ok, pure_eq_ok, writeReports_eq_ok] at h
  obtain ⟨_, _, rfl, _, _, rfl, _, _, rfl, _, m, ⟨paths, reported, hreports, hm⟩, _, _,
    ⟨rfl, rfl⟩, ⟨path, final⟩, _, ⟨hsave, rfl⟩, _, _, rfl, hstatus, hend⟩ := h
  subst hm hend
  refine ⟨⟨paths, reported, path, hreports, hfiles ▸ hsave⟩, ?_, hstatus⟩
  rw [hprinted]
  simp

end Work

namespace RunPlan

variable {site : Site} {g : Globals} {r : RunRequest} {files : FileTree} {reply : Reply}

/-- **A run command that does not fail has made a plan and has closed it.** -/
theorem exists_closed (h : carryOut site files ⟨g, .run r⟩ = reply)
    (finished : reply.fault = none) : ∃ p : RunPlan site g r files, p.Closed reply := by
  obtain ⟨d, hperform, hfiles, hprinted⟩ := carryOut_eq h finished
  obtain ⟨p, hclose⟩ := Work.runCases_eq_ok hperform
  exact ⟨p, Work.closed_of_closeRun hclose hfiles hprinted⟩

/-! ### How a run ends -/

variable {p : RunPlan site g r files} {history : List PoolEvent}

theorem exists_follows (p : RunPlan site g r files) : ∃ history, p.course.Follows p.last history :=
  Course.exists_history p.course p.made _

theorem mem_results (h : p.course.Follows p.last history) {x : CaseResult} :
    x ∈ p.results ↔ ∃ slot, (slot, x) ∈ acceptedIn history := h.mem_results_iff

theorem isInterrupted_iff (h : p.course.Follows p.last history) :
    p.last.isInterrupted = true ↔ .interrupt ∈ history :=
  h.isInterrupted_iff (Course.run_ended p.course p.made)

theorem summary_eq (h : p.course.Follows p.last history) : p.record.summary =
    RunSummary.ofTable p.suites (p.last.pool.startTimes (site.clock p.last.turns))
      p.last.pool.sink.resultAt p.last.isInterrupted := h.summary_eq

/-- The summary counts as a success if the run came to its end and is clean. -/
theorem isSuccess_iff (h : p.course.Follows p.last history) : p.record.summary.isSuccess = true ↔
    .interrupt ∉ history ∧ ∀ x ∈ p.results, x.status.isFailure = false := by
  have hinterrupted : p.record.summary.interrupted = p.last.isInterrupted := by
    rw [summary_eq h]
    rfl
  rw [RunSummary.isSuccess, Bool.and_eq_true, hinterrupted, Bool.not_eq_true',
    ← Bool.not_eq_true, isInterrupted_iff h]
  exact and_congr_right' h.clean_iff

/-- **The exit status of a run** says whether it was interrupted, and else whether all cases that
were run are fine. -/
theorem Closed.code_eq (closed : p.Closed reply) (h : p.course.Follows p.last history) :
    (reply.status.code = 130 ↔ .interrupt ∈ history) ∧
    (reply.status.code = 0 ↔ p.record.summary.isSuccess = true) ∧
    (.interrupt ∉ history → reply.status.code ≠ 0 → reply.status.code = 1) := by
  have hsuccess := isSuccess_iff h
  rw [closed.status]
  by_cases hinterrupt : .interrupt ∈ history
  · have hlast := (isInterrupted_iff h).2 hinterrupt
    simp [hlast, hinterrupt, hsuccess, ExitStatus.code]
  · have hlast : p.last.isInterrupted = false := by
      rw [← Bool.not_eq_true, isInterrupted_iff h]
      exact hinterrupt
    cases hsummary : p.record.summary.isSuccess <;>
      simp [hlast, hinterrupt, hsummary, ExitStatus.ofSummary, ExitStatus.code]

/-! ### The files that are left -/

theorem grown_made (p : RunPlan site g r files) : files.Grown p.made := by
  obtain ⟨first, hfirst, hmade⟩ := p.created
  exact (FileTree.grown_of_createDirectories hfirst).trans
    (FileTree.grown_of_createDirectories hmade)

/-- The trees between the end of the course and the end of the command. -/
theorem Closed.exists_trees (closed : p.Closed reply) : ∃ dirs paths reported stored,
    p.last.files.createDirectories p.config.reports = .ok dirs ∧
    Junit.writeEach p.config.reports site.host dirs p.record.summary.suites =
      .ok (paths, reported) ∧
    reported.createDirectories p.store.dir = .ok stored ∧
    stored.write (p.store.path p.record.id) (Utf8.encode (RunStore.content p.record).toList) =
      .ok reply.files := by
  obtain ⟨paths, reported, path, hreports, hsave⟩ := closed.saved
  obtain ⟨dirs, hdirs, hwrite⟩ := Junit.writeAll_eq_ok.1 hreports
  obtain ⟨stored, hstored, hrecord, -⟩ := RunStore.save_eq_ok hsave
  exact ⟨dirs, paths, reported, stored, hdirs, hwrite, hstored, hrecord⟩

theorem endsWith_record (p : RunPlan site g r files) (store : RunStore) :
    Path.EndsWith (store.path p.record.id) ".json" :=
  ⟨store.dir, p.record.id, rfl, StoredRun.isName_nameAt _ _⟩

/-- **The record of the run is saved**, with all its text. -/
theorem Closed.readBytes_record (closed : p.Closed reply) :
    reply.files.readBytes (p.store.path p.record.id) =
      .ok (Utf8.encode (RunStore.content p.record).toList) := by
  obtain ⟨-, -, -, stored, -, -, -, hrecord⟩ := closed.exists_trees
  exact FileTree.readBytes_write_self hrecord

/-- **No other record is saved or changed** by a run, if the machine does not change it. -/
theorem Closed.keepsFile (closed : p.Closed reply) {l : Location} (hl : l.EndsWith ".json")
    (process : Machine.Respects site.machine (FileTree.KeepsFile l))
    (other : reply.files.locate (p.store.path p.record.id) ≠ .ok l) :
    FileTree.KeepsFile l files reply.files := by
  obtain ⟨dirs, paths, reported, stored, hdirs, hreports, hstored, hrecord⟩ := closed.exists_trees
  have stable := stable_keepsFile hl (by decide) (by decide) process files
  have hlast : FileTree.KeepsFile l files p.last.files :=
    (Course.run_induction (Q := fun _ => True) p.course
      (fun t suite case elapsedMs ht => ⟨stable.run _ suite case elapsedMs ht, trivial⟩)
      (p.grown_made.keepsFile l)).files
  have hreported : FileTree.KeepsFile l files reported :=
    Junit.writeEach_induction
      (fun hpath hwrite ht => ht.trans (FileTree.keepsFile_of_write hwrite hpath hl (by decide)))
      hreports (hlast.trans ((FileTree.grown_of_createDirectories hdirs).keepsFile l))
  obtain ⟨k, hk, same, -⟩ := FileTree.sameBut_of_write hrecord
  refine (hreported.trans ((FileTree.grown_of_createDirectories hstored).keepsFile l)).trans
    (same.keepsFile fun heq => other ?_)
  rw [heq]
  exact same.locate_iff.2 hk

/-- **The record of a run is new** if there was no file in its place, and no other record is. -/
theorem Closed.exists_newFile (closed : p.Closed reply) : ∃ l : Location, l.EndsWith ".json" ∧
    reply.files.locate (p.store.path p.record.id) = .ok l ∧
    ((∀ content, files.entry? l ≠ some (.file content)) →
      FileTree.NewFile l files reply.files) ∧
    ∀ k : Location, k.EndsWith ".json" → Machine.Respects site.machine (FileTree.KeepsFile k) →
      FileTree.NewFile k files reply.files → k = l := by
  obtain ⟨l, hlocate, hentry⟩ := FileTree.readBytes_eq_ok.1 closed.readBytes_record
  refine ⟨l, FileTree.endsWith_of_locate (p.endsWith_record p.store) hlocate, hlocate,
    fun hnone => ⟨⟨_, hentry⟩, hnone⟩, fun k hk process hnew => ?_⟩
  by_contra hne
  refine (closed.keepsFile hk process fun hother => hne ?_).not_newFile hnew
  exact Except.ok.inj (hother.symm.trans hlocate)

/-! ### Captures and reports -/

/-- What holds for what the runner makes of each case holds for every result. -/
theorem forall_results {P : FileTree → Prop} {Q : CaseResult → Prop} (p : RunPlan site g r files)
    (step : ∀ t suite case elapsedMs, P t →
      P (p.course.runner.run site.machine t suite case elapsedMs).2 ∧
      Q (p.course.runner.run site.machine t suite case elapsedMs).1)
    (h : P p.made) : P p.last.files ∧ ∀ x ∈ p.results, Q x := by
  obtain ⟨history, follows⟩ := p.exists_follows
  have holds := Course.run_induction p.course step h
  refine ⟨holds.files, fun x hx => ?_⟩
  obtain ⟨slot, -, hslot⟩ := follows.mem_results.1 hx
  exact holds.results slot x hslot

/-- Trees stay regular in a run, and its results name captures only. -/
theorem regular_and_captures (p : RunPlan site g r files) (regular : files.IsRegular)
    (process : Machine.KeepsRegular site.machine) :
    p.last.files.IsRegular ∧ ∀ x ∈ p.results, ∀ path ∈ x.captures,
      IsCapture path ∧ Path.up ∉ Path.pieces path :=
  p.forall_results (fun _ suite case elapsedMs ht =>
    ⟨(stable_isRegular process).run _ suite case elapsedMs ht, Runner.mem_captures_run ht⟩)
    (p.grown_made.isRegular regular)

/-- The files are regular when the command ends. -/
theorem Closed.isRegular (closed : p.Closed reply) (regular : files.IsRegular)
    (process : Machine.KeepsRegular site.machine) :
    reply.files.IsRegular := by
  obtain ⟨dirs, paths, reported, stored, hdirs, hreports, hstored, hrecord⟩ := closed.exists_trees
  have hlast := (p.regular_and_captures regular process).1
  have hreported : reported.IsRegular :=
    Junit.writeEach_induction (fun _ hwrite ht => ht.write hwrite) hreports
      ((FileTree.grown_of_createDirectories hdirs).isRegular hlast)
  exact ((FileTree.grown_of_createDirectories hstored).isRegular hreported).write hrecord

end RunPlan

end SuiteRunner
