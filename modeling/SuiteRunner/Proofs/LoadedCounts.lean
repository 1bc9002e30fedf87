import SuiteRunner.Proofs.RunLists
import SuiteRunner.Proofs.SuiteSelection
import SuiteRunner.Proofs.SummaryCounts

/-!
# The counts of runs that are loaded

The file of a run has its counts beside its results.  Both are read as they are, so that the counts
of a run that is loaded are right exactly if the numbers in its file are.  They are in every file
that the program writes, because a summary counts its results when it is made, and what is right
when it is written is loaded as it was.

* `SuiteSummary.Counted` and `RunSummary.Counted`, counts that are right;
* `RunSummary.Counted.consistent` — what can be told from such counts alone;
* `RunSummary.counted_ofSuites` and `RunPlan.counted_record` — counts are right when they are made;
* `Node.CountsResults` and `Node.AddsSuites`, numbers in a document that are right, with
  `RunSummary.counted_iff`;
* **`counts_loaded`** — which runs that are loaded have counts that are right, and what a report
  makes of them.
-/

namespace SuiteRunner

/-! ### Counts that are right -/

/-- How many results ended in one way. -/
def Counts.ended (c : Counts) : Status → Nat
  | .pass => c.passed
  | .fail => c.failed
  | .skip => c.skipped
  | .error => c.errors

/-- The name of this number in documents. -/
def Status.countName : Status → String
  | .pass => "passed"
  | .fail => "failed"
  | .skip => "skipped"
  | .error => "errors"

theorem Counts.ended_add (a b : Counts) (status : Status) :
    (a.add b).ended status = a.ended status + b.ended status := by
  cases status <;> rfl

/-- The counts of a suite are the numbers of its results. -/
structure SuiteSummary.Counted (s : SuiteSummary) : Prop where
  total : s.counts.total = s.results.length
  ended : ∀ status, s.counts.ended status = s.results.countP (·.status = status)

/-- The counts of a run are the sums of those of its suites, which are right themselves. -/
structure RunSummary.Counted (r : RunSummary) : Prop where
  suites : ∀ s ∈ r.suites, s.Counted
  total : r.counts.total = Numeral.total (r.suites.map fun s => s.counts.total)
  ended : ∀ status,
    r.counts.ended status = Numeral.total (r.suites.map fun s => s.counts.ended status)

/-- A summary that agrees with its own counts: the cases that were not skipped are told without
wrapping, in each suite and in the run, and the run is a success if it lists no failures. -/
structure RunSummary.Consistent (r : RunSummary) : Prop where
  suites : ∀ s ∈ r.suites, s.counts.Balanced
  balanced : r.counts.Balanced
  length_failures : r.failures.length = r.counts.failed + r.counts.errors
  success : r.isSuccess = true ↔ r.failures = [] ∧ r.interrupted = false

namespace Counts

variable {c : Counts} {results : List CaseResult}

/-- Counts that are right but for the duration make a tally with the right one. -/
theorem tally_of_ended (total : c.total = results.length)
    (ended : ∀ status, c.ended status = results.countP (·.status = status)) :
    ({ c with durationMs := Numeral.total (results.map CaseResult.durationMs) % Numeral.size64 } :
      Counts).Tally results where
  total := total
  passed := ended .pass
  failed := ended .fail
  skipped := ended .skip
  errors := ended .error
  durationMs := rfl

theorem ended_ofResults (results : List CaseResult) (status : Status) :
    (ofResults results).ended status = results.countP (·.status = status) := by
  rw [← withStatus_eq_countP]
  cases status <;> rfl

/-- The duration has nothing to do with how the counts add up. -/
theorem Balanced.of_durationMs {n : Nat} (h : ({ c with durationMs := n } : Counts).Balanced) :
    c.Balanced := ⟨h.total, h.skipped_le, h.ran, h.passed_le⟩

end Counts

theorem SuiteSummary.counted_of_eq {s : SuiteSummary} (h : s.counts = .ofResults s.results) :
    s.Counted where
  total := by rw [h]; rfl
  ended status := by rw [h, Counts.ended_ofResults]

namespace RunSummary

variable {r : RunSummary} {suites : List SuiteSummary} {interrupted : Bool}

/-- **The counts of a run are made of those of its suites.** -/
theorem counted_ofSuites (counted : ∀ s ∈ suites, s.Counted) :
    (ofSuites suites interrupted).Counted := by
  refine ⟨counted, ?_, fun status => ?_⟩
  · clear counted
    induction suites with
    | nil => rfl
    | cons s suites ih => exact congrArg (s.counts.total + ·) ih
  · clear counted
    induction suites with
    | nil => cases status <;> rfl
    | cons s suites ih =>
      show (s.counts.add _).ended status = s.counts.ended status + Numeral.total _
      rw [Counts.ended_add]
      exact congrArg (s.counts.ended status + ·) ih

theorem counted_ofTable (declared : List Suite) (startedAt : Nat → Instant)
    (table : Slot → Option CaseResult) (interrupted : Bool) :
    (ofTable declared startedAt table interrupted).Counted := by
  have hsuites := counted_of_mem_ofTable declared startedAt table interrupted
  rw [ofTable_eq_ofSuites]
  exact counted_ofSuites fun s hs => SuiteSummary.counted_of_eq (hsuites s hs)

/-- Right counts are those of all results, one suite after the other. -/
theorem Counted.tally (h : r.Counted) :
    ({ r.counts with
      durationMs := Numeral.total ((r.suites.flatMap SuiteSummary.results).map
        CaseResult.durationMs) % Numeral.size64 } : Counts).Tally
      (r.suites.flatMap SuiteSummary.results) := by
  refine Counts.tally_of_ended ?_ fun status => ?_
  · rw [h.total, List.length_flatMap]
    exact congrArg List.sum (List.map_congr_left fun s hs => (h.suites s hs).total)
  · rw [h.ended, List.countP_flatMap]
    exact congrArg List.sum (List.map_congr_left fun s hs => (h.suites s hs).ended status)

/-- **Right counts make a summary that agrees with itself.** -/
theorem Counted.consistent (h : r.Counted) : r.Consistent := by
  -- The duration is the only number that is not known to be right.
  have agrees : RunSummary.Agrees ⟨r.suites, { r.counts with durationMs := _ }, r.interrupted⟩ _ :=
    agrees_of_tally h.tally rfl
  refine ⟨fun s hs => ?_, agrees.balanced.of_durationMs, agrees.length_failures, agrees.success⟩
  have hs := h.suites s hs
  exact (Counts.tally_of_ended hs.total hs.ended).balanced.of_durationMs

end RunSummary

/-- The record of a run has right counts. -/
theorem RunPlan.counted_record {site : Site} {g : Globals} {r : RunRequest} {files : FileTree}
    (p : RunPlan site g r files) : p.record.summary.Counted := by
  obtain ⟨history, follows⟩ := p.exists_follows
  rw [RunPlan.summary_eq follows]
  exact RunSummary.counted_ofTable _ _ _ _

/-! ### Numbers in a document -/

namespace Node

variable {α : Type} {n : Node} {fields : List String} {name : String} {read : Node → Option α}
  {xs : List α} {c : Counts}

/-- What stands under a name in a record with some fields. -/
def part? (fields : List String) (name : String) (n : Node) : Option Node :=
  (Record.ofNode? fields n).bind fun r => r.field? name

/-- The number under a name. -/
def number? (fields : List String) (name : String) (n : Node) : Option Nat :=
  (n.part? fields name).bind readNat64?

/-- The items of the list under a name; there are none if there is no list. -/
def items (fields : List String) (name : String) (n : Node) : List Node :=
  match n.part? fields name with
  | some (.list items) => items
  | _ => []

/-- A record has the counts, and under a name a list of what is read item by item. -/
structure Tells (n : Node) (fields : List String) (c : Counts) (name : String)
    (read : Node → Option α) (xs : List α) : Prop where
  total : n.number? fields "total" = some c.total
  ended : ∀ status : Status, n.number? fields status.countName = some (c.ended status)
  items : List.Forall₂ (fun item x => read item = some x) (n.items fields name) xs

theorem part?_of_record {record : Record} (h : Record.ofNode? fields n = some record)
    (name : String) : n.part? fields name = record.field? name := by
  rw [part?, h, Option.bind_some]

theorem tells_of_record {record : Record} (h : Record.ofNode? fields n = some record)
    (counts : Counts.ofRecord? record = some c)
    (list : record.required name (Node.list? read) = some xs) : n.Tells fields c name read xs := by
  simp only [Counts.ofRecord?, Option.bind_eq_bind, Option.bind_eq_some_iff] at counts
  obtain ⟨total, htotal, passed, hpassed, failed, hfailed, skipped, hskipped, errors, herrors,
    duration, -, hcounts⟩ := counts
  cases hcounts
  have hnumber : ∀ name m, record.required name readNat64? = some m →
      n.number? fields name = some m := by
    intro name m hm
    rw [number?, part?_of_record h]
    exact hm
  refine ⟨hnumber _ _ htotal, fun status => ?_, ?_⟩
  · cases status with
    | pass => exact hnumber _ _ hpassed
    | fail => exact hnumber _ _ hfailed
    | skip => exact hnumber _ _ hskipped
    | error => exact hnumber _ _ herrors
  · obtain ⟨field, hfield, hlist⟩ := Option.bind_eq_some_iff.1 list
    obtain ⟨found, rfl, hitems⟩ := Node.forall₂_of_list? hlist
    rw [items, part?_of_record h, hfield]
    exact hitems

end Node

/-- The names of the fields of a result. -/
def CaseResult.fieldNames : List String :=
  ["suite", "class_name", "name", "status", "duration_ms", "message", "details", "stdout_path",
    "stderr_path", "timed_out"]

/-- The names of the fields of the summary of a suite. -/
def SuiteSummary.fieldNames : List String :=
  ["suite", "class_name", "started_at", "total", "passed", "failed", "skipped", "errors",
    "total_duration_ms", "results"]

/-- The names of the fields of the summary of a run. -/
def RunSummary.fieldNames : List String :=
  ["suites", "total", "passed", "failed", "skipped", "errors", "total_duration_ms", "interrupted"]

/-- The names of the fields of a run. -/
def StoredRun.fieldNames : List String :=
  ["id", "started_at", "completed_at", "summary", "config", "environment"]

namespace Node

/-- The status of a result in a document. -/
def status? (n : Node) : Option Status :=
  (n.part? CaseResult.fieldNames "status").bind Status.ofNode?

/-- The results of a suite in a document. -/
def results (n : Node) : List Node := n.items SuiteSummary.fieldNames "results"

/-- The suites of a run in a document. -/
def suites (n : Node) : List Node := n.items RunSummary.fieldNames "suites"

/-- The numbers of a suite in a document are those of the results beside them. -/
structure CountsResults (n : Node) : Prop where
  total : n.number? SuiteSummary.fieldNames "total" = some n.results.length
  ended : ∀ status : Status, n.number? SuiteSummary.fieldNames status.countName =
    some (n.results.countP fun result => result.status? = some status)

/-- The numbers of a run in a document are the sums of those of its suites, which are right
themselves. -/
structure AddsSuites (n : Node) : Prop where
  suites : ∀ s ∈ n.suites, s.CountsResults
  total : n.number? RunSummary.fieldNames "total" =
    some (Numeral.total (n.suites.map fun s => (s.number? SuiteSummary.fieldNames "total").getD 0))
  ended : ∀ status : Status, n.number? RunSummary.fieldNames status.countName =
    some (Numeral.total (n.suites.map fun s =>
      (s.number? SuiteSummary.fieldNames status.countName).getD 0))

end Node

theorem forall₂_map_eq {α β γ : Type*} {R : α → β → Prop} {f : α → γ} {g : β → γ} {xs : List α}
    {ys : List β} (h : List.Forall₂ R xs ys) (same : ∀ x y, R x y → f x = g y) :
    xs.map f = ys.map g := by
  induction h with
  | nil => rfl
  | cons hxy _ ih => rw [List.map_cons, List.map_cons, same _ _ hxy, ih]

/-! ### What is read of a document -/

theorem CaseResult.status?_of_ofNode? {n : Node} {x : CaseResult}
    (h : CaseResult.ofNode? n = some x) : n.status? = some x.status := by
  obtain ⟨record, hrecord, h⟩ := Option.bind_eq_some_iff.1 h
  obtain ⟨suite, -, h⟩ := Option.bind_eq_some_iff.1 h
  obtain ⟨className, -, h⟩ := Option.bind_eq_some_iff.1 h
  obtain ⟨name, -, h⟩ := Option.bind_eq_some_iff.1 h
  obtain ⟨status, hstatus, h⟩ := Option.bind_eq_some_iff.1 h
  have hx : x.status = status := by
    simp only [Option.bind_eq_bind, Option.bind_eq_some_iff] at h
    obtain ⟨_, -, _, -, _, -, _, -, _, -, _, -, h⟩ := h
    cases h
    rfl
  have hpart : n.part? CaseResult.fieldNames "status" = record.field? "status" :=
    Node.part?_of_record hrecord "status"
  rw [Node.status?, hpart, hx]
  exact hstatus

theorem SuiteSummary.tells_of_ofNode? {n : Node} {s : SuiteSummary}
    (h : SuiteSummary.ofNode? n = some s) :
    n.Tells SuiteSummary.fieldNames s.counts "results" CaseResult.ofNode? s.results := by
  obtain ⟨record, hrecord, h⟩ := Option.bind_eq_some_iff.1 h
  obtain ⟨suite, -, h⟩ := Option.bind_eq_some_iff.1 h
  obtain ⟨className, -, h⟩ := Option.bind_eq_some_iff.1 h
  obtain ⟨startedAt, -, h⟩ := Option.bind_eq_some_iff.1 h
  obtain ⟨counts, hcounts, h⟩ := Option.bind_eq_some_iff.1 h
  obtain ⟨results, hresults, h⟩ := Option.bind_eq_some_iff.1 h
  cases h
  exact Node.tells_of_record hrecord hcounts hresults

theorem RunSummary.tells_of_ofNode? {n : Node} {r : RunSummary}
    (h : RunSummary.ofNode? n = some r) :
    n.Tells RunSummary.fieldNames r.counts "suites" SuiteSummary.ofNode? r.suites := by
  obtain ⟨record, hrecord, h⟩ := Option.bind_eq_some_iff.1 h
  obtain ⟨suites, hsuites, h⟩ := Option.bind_eq_some_iff.1 h
  obtain ⟨counts, hcounts, h⟩ := Option.bind_eq_some_iff.1 h
  obtain ⟨interrupted, -, h⟩ := Option.bind_eq_some_iff.1 h
  cases h
  exact Node.tells_of_record hrecord hcounts hsuites

/-- **The counts of a suite are right if the numbers in its document are.** -/
theorem SuiteSummary.counted_iff {n : Node} {s : SuiteSummary}
    (h : SuiteSummary.ofNode? n = some s) : s.Counted ↔ n.CountsResults := by
  have htells := tells_of_ofNode? h
  have hlength : n.results.length = s.results.length := htells.items.length_eq
  have hcount : ∀ status, n.results.countP (fun result => result.status? = some status) =
      s.results.countP (·.status = status) := by
    intro status
    have hsame : n.results.map Node.status? = s.results.map fun x => some x.status :=
      forall₂_map_eq htells.items fun _ _ => CaseResult.status?_of_ofNode?
    have hcounted := congrArg (List.countP fun o => decide (o = some status)) hsame
    rw [List.countP_map, List.countP_map] at hcounted
    simpa [Function.comp_def] using hcounted
  constructor
  · intro hs
    refine ⟨?_, fun status => ?_⟩
    · rw [htells.total, hs.total, hlength]
    · rw [htells.ended, hs.ended, hcount]
  · intro hn
    refine ⟨?_, fun status => ?_⟩
    · rw [← hlength]
      exact Option.some.inj (htells.total.symm.trans hn.total)
    · rw [← hcount]
      exact Option.some.inj ((htells.ended status).symm.trans (hn.ended status))

/-- **The counts of a run are right if the numbers in its document are.** -/
theorem RunSummary.counted_iff {n : Node} {r : RunSummary} (h : RunSummary.ofNode? n = some r) :
    r.Counted ↔ n.AddsSuites := by
  have htells := tells_of_ofNode? h
  have hsuites : (∀ s ∈ r.suites, s.Counted) ↔ ∀ s ∈ n.suites, s.CountsResults := by
    have hsame : n.suites.map Node.CountsResults = r.suites.map SuiteSummary.Counted :=
      forall₂_map_eq htells.items fun _ _ hs => propext (SuiteSummary.counted_iff hs).symm
    have hall : (∀ p ∈ r.suites.map SuiteSummary.Counted, p) ↔
        ∀ p ∈ n.suites.map Node.CountsResults, p := by rw [hsame]
    rwa [List.forall_mem_map, List.forall_mem_map] at hall
  have htotal : n.suites.map (fun s => (s.number? SuiteSummary.fieldNames "total").getD 0) =
      r.suites.map fun s => s.counts.total := by
    refine forall₂_map_eq htells.items fun _ _ hs => ?_
    rw [(SuiteSummary.tells_of_ofNode? hs).total, Option.getD_some]
  have hended : ∀ status : Status, n.suites.map (fun s =>
      (s.number? SuiteSummary.fieldNames status.countName).getD 0) =
        r.suites.map fun s => s.counts.ended status := by
    intro status
    refine forall₂_map_eq htells.items fun _ _ hs => ?_
    rw [(SuiteSummary.tells_of_ofNode? hs).ended, Option.getD_some]
  constructor
  · intro hr
    refine ⟨hsuites.1 hr.suites, ?_, fun status => ?_⟩
    · rw [htells.total, hr.total, htotal]
    · rw [htells.ended, hr.ended, hended]
  · intro hn
    refine ⟨hsuites.2 hn.suites, ?_, fun status => ?_⟩
    · rw [← htotal]
      exact Option.some.inj (htells.total.symm.trans hn.total)
    · rw [← hended]
      exact Option.some.inj ((htells.ended status).symm.trans (hn.ended status))

/-- The summary of a run is read from a part of its document. -/
theorem StoredRun.exists_part_of_ofNode? {n : Node} {r : StoredRun}
    (h : StoredRun.ofNode? n = some r) :
    ∃ summary, n.part? StoredRun.fieldNames "summary" = some summary ∧
      RunSummary.ofNode? summary = some r.summary := by
  obtain ⟨record, hrecord, h⟩ := Option.bind_eq_some_iff.1 h
  obtain ⟨id, -, h⟩ := Option.bind_eq_some_iff.1 h
  obtain ⟨startedAt, -, h⟩ := Option.bind_eq_some_iff.1 h
  obtain ⟨completedAt, -, h⟩ := Option.bind_eq_some_iff.1 h
  obtain ⟨summary, hsummary, h⟩ := Option.bind_eq_some_iff.1 h
  obtain ⟨config, -, h⟩ := Option.bind_eq_some_iff.1 h
  obtain ⟨platform, -, h⟩ := Option.bind_eq_some_iff.1 h
  cases h
  have hpart : n.part? StoredRun.fieldNames "summary" = record.field? "summary" :=
    Node.part?_of_record hrecord "summary"
  rw [hpart]
  exact Option.bind_eq_some_iff.1 hsummary

/-! ### Runs that are loaded -/

namespace RunStore

variable {store : RunStore} {files : FileTree} {id : String} {run : StoredRun}

/-- A run that is loaded is read from its file. -/
theorem read?_of_load (h : store.load files id = .ok run) :
    read? files (store.path id) = some run := by
  rw [load] at h
  split at h
  · cases h
  · split at h
    · cases h
    · cases h
      assumption

/-- **The counts of a run that is loaded are right if the numbers in its file are.** -/
theorem exists_summary_of_load (h : store.load files id = .ok run) :
    ∃ text document summary, files.readText (store.path id) = .ok text ∧
      Json.read? text = some document ∧
      document.part? StoredRun.fieldNames "summary" = some summary ∧
      (run.summary.Counted ↔ summary.AddsSuites) := by
  obtain ⟨text, htext, hread⟩ := Option.bind_eq_some_iff.1 (read?_of_load h)
  obtain ⟨document, hdocument, hrun⟩ := Option.bind_eq_some_iff.1 hread
  obtain ⟨summary, hsummary, hof⟩ := StoredRun.exists_part_of_ofNode? hrun
  exact ⟨text, document, summary, toOption_eq_some.1 htext, hdocument, hsummary,
    RunSummary.counted_iff hof⟩

/-- The run that is asked for: the one of a name, or else the latest one. -/
def IsAsked (store : RunStore) (files : FileTree) (id? : Option String) (run : StoredRun) : Prop :=
  match id? with
  | some id => store.load files id = .ok run
  | none => store.latest? files = .ok (some run)

end RunStore

theorem ExitStatus.code_ofSummary {s : RunSummary} :
    (ofSummary s).code = 0 ↔ s.isSuccess = true := by
  rw [ofSummary]
  split
  · rename_i hsuccess
    exact ⟨fun _ => hsuccess, fun _ => rfl⟩
  · rename_i hfailure
    exact ⟨fun h => absurd h (by decide), fun h => absurd h hfailure⟩

/-- A report command that does not fail ends as the summary of the run says that it shows. -/
theorem report_shows {site : Site} {files : FileTree} {g : Globals} {q : ReportRequest}
    {reply : Reply} (h : carryOut site files ⟨g, .report q⟩ = reply)
    (finished : reply.fault = none) :
    ∃ base run, Config.resolve files site.environment g.settingsFile g.profile = .ok base ∧
      (RunStore.ofOutput (q.outputDir.getD base.outputDir)).IsAsked files q.runId run ∧
      reply.status = .ofSummary run.summary := by
  obtain ⟨d, hperform, -, -⟩ := carryOut_eq h finished
  obtain ⟨base, format, run, paths, written, hbase, -, hrun, -, -, hstatus⟩ :=
    Work.showReport_eq_ok.1 hperform
  exact ⟨base, run, hbase, (Work.savedRun_eq_ok.1 hrun).2, hstatus⟩

/-- **The counts of runs that are loaded.**  Loading neither checks nor corrects them: they are
right exactly if the numbers in the file are, and then no number wraps.  Summaries that are made of
results have right counts, as do the records of all runs, and a run that is saved is loaded as it
was.  A report of a run with right counts succeeds exactly if the run was not interrupted and no
case of it is listed as a failure. -/
theorem counts_loaded :
    (∀ (store : RunStore) (files : FileTree) (id : String) (run : StoredRun),
      store.load files id = .ok run →
        (∃ text document summary, files.readText (store.path id) = .ok text ∧
          Json.read? text = some document ∧
          document.part? StoredRun.fieldNames "summary" = some summary ∧
          (run.summary.Counted ↔ summary.AddsSuites)) ∧
        (run.summary.Counted → run.summary.Consistent)) ∧
    (∀ (parts : List SuiteResults) (interrupted : Bool),
      (RunSummary.ofSuites (parts.map SuiteResults.summary) interrupted).Counted) ∧
    (∀ (site : Site) (g : Globals) (r : RunRequest) (files : FileTree)
      (p : RunPlan site g r files), p.record.summary.Counted) ∧
    (∀ (store : RunStore) (files files' : FileTree) (run : StoredRun) (path : String),
      run.Keeps → store.save files run = .ok (path, files') →
        store.load files' run.id = .ok run) ∧
    ∀ (site : Site) (files : FileTree) (g : Globals) (q : ReportRequest) (reply : Reply),
      carryOut site files ⟨g, .report q⟩ = reply → reply.fault = none →
        ∃ base run, Config.resolve files site.environment g.settingsFile g.profile = .ok base ∧
          (RunStore.ofOutput (q.outputDir.getD base.outputDir)).IsAsked files q.runId run ∧
          (run.summary.Counted →
            (reply.status.code = 0 ↔
              run.summary.failures = [] ∧ run.summary.interrupted = false)) := by
  refine ⟨fun store files id run hload => ?_, fun parts interrupted => ?_,
    fun site g r files p => p.counted_record, fun store files files' run path keeps hsave => ?_,
    fun site files g q reply h finished => ?_⟩
  · exact ⟨RunStore.exists_summary_of_load hload, RunSummary.Counted.consistent⟩
  · refine RunSummary.counted_ofSuites fun s hs => ?_
    obtain ⟨part, -, rfl⟩ := List.mem_map.1 hs
    exact SuiteSummary.counted_of_eq rfl
  · exact RunStore.load_of_save hsave keeps
  · obtain ⟨base, run, hbase, hrun, hstatus⟩ := report_shows h finished
    refine ⟨base, run, hbase, hrun, fun counted => ?_⟩
    rw [hstatus, ExitStatus.code_ofSummary]
    exact counted.consistent.success

/-! ### A run with a failure -/

/-- A case that has failed. -/
def failedRing : CaseResult :=
  { CaseResult.plain "demo" "demo" "ring" .fail with message := some "x" }

/-- A run of a suite with one case, which has failed, and some counts. -/
def failedRun (counts : Counts) : StoredRun where
  id := "x"
  startedAt := ⟨1772368200, 0⟩
  completedAt := ⟨1772370000, 0⟩
  summary := ⟨[⟨"demo", "demo", ⟨1772368200, 0⟩, counts, [failedRing]⟩], counts, false⟩
  config := .standard
  platform := ⟨"linux", "x86_64", "0.1.0"⟩

theorem failedRun_keeps {counts : Counts} (fit : counts.Fit) : (failedRun counts).Keeps where
  startedAt := (by decide +kernel : Instant.Reads ⟨1772368200, 0⟩)
  completedAt := (by decide +kernel : Instant.Reads ⟨1772370000, 0⟩)
  summary := by
    refine ⟨fun u hu => ?_, fit⟩
    obtain rfl := List.mem_singleton.1 hu
    refine ⟨(by decide +kernel : Instant.Reads ⟨1772368200, 0⟩), fit, fun r hr => ?_⟩
    obtain rfl := List.mem_singleton.1 hr
    exact Nat.zero_le _
  config := by constructor <;> simp [failedRun, Config.standard, Numeral.max32, Numeral.max64]

/-- The run in its file. -/
def failedFiles (counts : Counts) : FileTree where
  entries := [(["o"], .directory), (["o", "runs"], .directory),
    (["o", "runs", "x.json"], .file (Utf8.encode (RunStore.content (failedRun counts)).toList))]
  working := []

/-- The report that is asked for. -/
def failedReport (counts : Counts) : Reply :=
  carryOut complainingSite (failedFiles counts)
    ⟨⟨0, false, none, none⟩, .report ⟨some "x", some "o", some "o/xml", "summary"⟩⟩

theorem save_failedRun (counts : Counts) :
    (RunStore.ofOutput "o").save ⟨[], []⟩ (failedRun counts) =
      .ok ("o/runs/x.json", failedFiles counts) := by
  have hmade : FileTree.createDirectories ⟨[], []⟩ (RunStore.ofOutput "o").dir =
      .ok ⟨[(["o"], .directory), (["o", "runs"], .directory)], []⟩ := by rfl
  have htarget : FileTree.target ⟨[(["o"], .directory), (["o", "runs"], .directory)], []⟩
      ((RunStore.ofOutput "o").path "x") = .ok ["o", "runs", "x.json"] :=
    toOption_eq_some.1 (by decide +kernel)
  have hpath : (RunStore.ofOutput "o").path "x" = "o/runs/x.json" := by decide +kernel
  exact hpath ▸ RunStore.save_eq_put (r := failedRun counts) hmade htarget

/-- The report is made whenever its file can be written. -/
theorem failedReport_eq {counts : Counts} (fit : counts.Fit)
    (places : (Config.resolve (failedFiles counts) .empty none none).toOption = some .standard ∧
      (Junit.writeAll "o/xml" "h" (failedFiles counts)
        (failedRun counts).summary).toOption.isSome = true) :
    (failedReport counts).fault = none ∧
      (failedReport counts).status = .ofSummary (failedRun counts).summary := by
  obtain ⟨hresolve, hwrite⟩ := places
  obtain ⟨⟨paths, written⟩, hwritten⟩ := Option.isSome_iff_exists.1 hwrite
  have hload := RunStore.load_of_save (save_failedRun counts) (failedRun_keeps fit)
  have hperform : Work.perform complainingSite
      ⟨⟨0, false, none, none⟩, .report ⟨some "x", some "o", some "o/xml", "summary"⟩⟩
      ⟨failedFiles counts, ""⟩ = .ok (.ofSummary (failedRun counts).summary) ⟨written, "" ++
        ((complainingSite.formatter .summary).run (failedRun counts).summary ++ "\n")⟩ := by
    refine Work.showReport_eq_ok.2 ⟨.standard, .summary, failedRun counts, paths, written,
      toOption_eq_some.1 hresolve, by decide +kernel, ?_, toOption_eq_some.1 hwritten, rfl, rfl⟩
    exact Work.savedRun_eq_ok.2 ⟨rfl, hload⟩
  rw [failedReport, carryOut_of_ok hperform]
  exact ⟨rfl, rfl⟩

/-- With right counts the run fails again when it is reported. -/
theorem failedRun_counted :
    let counts : Counts := ⟨1, 0, 1, 0, 0, 0⟩
    (failedRun counts).Keeps ∧
      (RunStore.ofOutput "o").save ⟨[], []⟩ (failedRun counts) =
        .ok ("o/runs/x.json", failedFiles counts) ∧
      (RunStore.ofOutput "o").load (failedFiles counts) "x" = .ok (failedRun counts) ∧
      (failedRun counts).summary.Counted ∧ (failedRun counts).summary.Consistent ∧
      (failedReport counts).fault = none ∧ (failedReport counts).status.code ≠ 0 := by
  intro counts
  have fit : counts.Fit := by constructor <;> decide
  have keeps := failedRun_keeps fit
  have hsave := save_failedRun counts
  obtain ⟨loaded, made, -, saved, shown⟩ := counts_loaded
  have hload := saved _ _ _ _ _ keeps hsave
  have hcounted : (failedRun counts).summary.Counted :=
    made [⟨"demo", "demo", ⟨1772368200, 0⟩, [failedRing]⟩] false
  have hfailures : (failedRun counts).summary.failures ≠ [] := by decide +kernel
  obtain ⟨hfinished, -⟩ := failedReport_eq fit (by decide +kernel)
  obtain ⟨base, run, -, hasked, hstatus⟩ := shown _ _ _ _ _ rfl hfinished
  cases hload.symm.trans hasked
  exact ⟨keeps, hsave, hload, hcounted, (loaded _ _ _ _ hload).2 hcounted, hfinished,
    fun hzero => hfailures ((hstatus hcounted).1 hzero).1⟩

/-- **Wrong counts are loaded as well.**  Where the failure is counted as passed, its report
succeeds, and where it is counted as skipped only, more cases were skipped than there are. -/
theorem failedRun_miscounted :
    let passed : Counts := ⟨1, 1, 0, 0, 0, 0⟩
    let skipped : Counts := ⟨0, 0, 0, 1, 0, 0⟩
    (RunStore.ofOutput "o").load (failedFiles passed) "x" = .ok (failedRun passed) ∧
      ¬ (failedRun passed).summary.Counted ∧
      (failedRun passed).summary.failures = [failedRing] ∧
      (failedReport passed).fault = none ∧ (failedReport passed).status.code = 0 ∧
      (RunStore.ofOutput "o").load (failedFiles skipped) "x" = .ok (failedRun skipped) ∧
      (failedRun skipped).summary.counts.total < (failedRun skipped).summary.counts.skipped := by
  intro passed skipped
  have fit : passed.Fit := by constructor <;> decide
  have fit' : skipped.Fit := by constructor <;> decide
  obtain ⟨hfinished, hstatus⟩ := failedReport_eq fit (by decide +kernel)
  have hload := RunStore.load_of_save (save_failedRun passed) (failedRun_keeps fit)
  have hload' := RunStore.load_of_save (save_failedRun skipped) (failedRun_keeps fit')
  refine ⟨hload, fun hcounted => ?_, by decide +kernel, hfinished, ?_, hload', by decide⟩
  · have hpassed := (hcounted.suites _ List.mem_cons_self).ended .pass
    exact absurd hpassed (by decide +kernel)
  · rw [hstatus]
    decide +kernel

end SuiteRunner
