import Mathlib.Data.List.Basic
import SuiteRunner.Result.Summary

/-!
# What summaries count

A suite counts its own results, and a run adds up what its suites have counted.  Both count the
same: the counts of a run are those of all results of its suites, one suite after the other, so that
they do not depend on how the results were split into suites.

* `Counts.Tally`, counts that are those of results, with `Counts.Tally.add`;
* `RunSummary.Agrees`, a summary whose counts, failures and success are those of results;
* `RunSummary.counts_ofSuites` — a run counts the results of its suites as one list;
* **`summaries_agree`** — suites count their results, and a run those of all its suites.
-/

namespace SuiteRunner

/-! ### Sums that wrap -/

theorem addDurations_mod (a b : Nat) :
    addDurations (a % Numeral.size64) (b % Numeral.size64) = addDurations a b :=
  (Nat.add_mod a b Numeral.size64).symm

theorem total_append (ms ns : List Nat) :
    Numeral.total (ms ++ ns) = Numeral.total ms + Numeral.total ns := by
  induction ms with
  | nil => exact (Nat.zero_add _).symm
  | cons m ms ih =>
    show m + Numeral.total (ms ++ ns) = m + Numeral.total ms + Numeral.total ns
    rw [ih, Nat.add_assoc]

/-- Durations that are added one by one are added up to their sum, which wraps. -/
theorem foldr_addDurations (ns : List Nat) :
    ns.foldr addDurations 0 = Numeral.total ns % Numeral.size64 := by
  induction ns with
  | nil => rfl
  | cons n ns ih =>
    rw [List.foldr_cons, ih]
    exact Nat.add_mod_mod n (Numeral.total ns) Numeral.size64

/-! ### Counts of results -/

namespace Counts

/-- The counts are those of the results. -/
structure Tally (c : Counts) (results : List CaseResult) : Prop where
  total : c.total = results.length
  passed : c.passed = results.countP (·.status = .pass)
  failed : c.failed = results.countP (·.status = .fail)
  skipped : c.skipped = results.countP (·.status = .skip)
  errors : c.errors = results.countP (·.status = .error)
  durationMs : c.durationMs = Numeral.total (results.map CaseResult.durationMs) % Numeral.size64

/-- **Counts that add up**: no case is counted twice, and those that were not skipped can be told
without wrapping, with those that passed among them. -/
structure Balanced (c : Counts) : Prop where
  total : c.total = c.passed + c.failed + c.skipped + c.errors
  skipped_le : c.skipped ≤ c.total
  ran : c.ran = c.total - c.skipped
  passed_le : c.passed ≤ c.ran

variable {c c' : Counts} {results results' : List CaseResult}

theorem withStatus_eq_countP (status : Status) (results : List CaseResult) :
    withStatus status results = results.countP (·.status = status) := by
  rw [withStatus, ← List.countP_eq_length_filter]
  exact List.countP_congr fun r _ => by simp

theorem tally_zero : zero.Tally [] := ⟨rfl, rfl, rfl, rfl, rfl, rfl⟩

theorem tally_ofResults (results : List CaseResult) : (ofResults results).Tally results where
  total := rfl
  passed := withStatus_eq_countP .pass results
  failed := withStatus_eq_countP .fail results
  skipped := withStatus_eq_countP .skip results
  errors := withStatus_eq_countP .error results
  durationMs := foldr_addDurations _

/-- **Counts are added where results are put one after the other.** -/
theorem Tally.add (h : c.Tally results) (h' : c'.Tally results') :
    (c.add c').Tally (results ++ results') where
  total := by rw [List.length_append, ← h.total, ← h'.total, Counts.add]
  passed := by rw [List.countP_append, ← h.passed, ← h'.passed, Counts.add]
  failed := by rw [List.countP_append, ← h.failed, ← h'.failed, Counts.add]
  skipped := by rw [List.countP_append, ← h.skipped, ← h'.skipped, Counts.add]
  errors := by rw [List.countP_append, ← h.errors, ← h'.errors, Counts.add]
  durationMs := by
    rw [List.map_append, total_append, Counts.add, h.durationMs, h'.durationMs, addDurations_mod]
    rfl

/-- Results have one tally only. -/
theorem Tally.unique (h : c.Tally results) (h' : c'.Tally results) : c = c' := by
  cases c
  cases c'
  simp only [mk.injEq]
  exact ⟨h.total.trans h'.total.symm, h.passed.trans h'.passed.symm, h.failed.trans h'.failed.symm,
    h.skipped.trans h'.skipped.symm, h.errors.trans h'.errors.symm,
    h.durationMs.trans h'.durationMs.symm⟩

/-- Every result has one of the four statuses. -/
theorem length_eq_countP (results : List CaseResult) :
    results.length = results.countP (·.status = .pass) + results.countP (·.status = .fail) +
      results.countP (·.status = .skip) + results.countP (·.status = .error) := by
  induction results with
  | nil => rfl
  | cons r results ih =>
    simp only [List.length_cons, List.countP_cons, ih]
    cases r.status <;> simp <;> omega

theorem Tally.balanced (h : c.Tally results) : c.Balanced := by
  have hsum : c.total = c.passed + c.failed + c.skipped + c.errors := by
    rw [h.total, h.passed, h.failed, h.skipped, h.errors]
    exact length_eq_countP results
  have hskipped : c.skipped ≤ c.total := by omega
  have hran : c.ran = c.total - c.skipped := if_pos hskipped
  exact ⟨hsum, hskipped, hran, by omega⟩

/-- What counts against a run is a failure or an error. -/
theorem Tally.length_failures (h : c.Tally results) :
    (results.filter (·.status.isFailure)).length = c.failed + c.errors := by
  rw [h.failed, h.errors, ← List.countP_eq_length_filter]
  clear h
  induction results with
  | nil => rfl
  | cons r results ih =>
    simp only [List.countP_cons, ih]
    cases r.status <;> simp [Status.isFailure] <;> omega

end Counts

/-! ### Suites and runs -/

/-- The results of a suite, before they are summed up. -/
structure SuiteResults where
  suite : String
  className : String
  startedAt : Instant
  results : List CaseResult

/-- The summary of a suite. -/
def SuiteResults.summary (s : SuiteResults) : SuiteSummary :=
  .ofResults s.suite s.className s.startedAt s.results

namespace RunSummary

/-- The summary says what the results say: it counts them, lists those that failed or could not be
judged, and is a success if there are none and the run was not interrupted. -/
structure Agrees (r : RunSummary) (results : List CaseResult) : Prop where
  tally : r.counts.Tally results
  balanced : r.counts.Balanced
  failures : r.failures = results.filter fun x => x.status = .fail ∨ x.status = .error
  length_failures : r.failures.length = r.counts.failed + r.counts.errors
  success : r.isSuccess = true ↔ r.failures = [] ∧ r.interrupted = false

/-- The counts of a run are those of the results of all its suites. -/
theorem tally_ofSuites {suites : List SuiteSummary}
    (counted : ∀ s ∈ suites, s.counts.Tally s.results) (interrupted : Bool) :
    (ofSuites suites interrupted).counts.Tally (suites.flatMap SuiteSummary.results) := by
  show (suites.foldr (fun s c => s.counts.add c) Counts.zero).Tally _
  induction suites with
  | nil => exact Counts.tally_zero
  | cons s suites ih =>
    obtain ⟨hs, hrest⟩ := List.forall_mem_cons.1 counted
    exact hs.add (ih hrest)

/-- **A run counts the results of its suites as one list**, if each suite counts its own. -/
theorem counts_ofSuites {suites : List SuiteSummary}
    (counted : ∀ s ∈ suites, s.counts = .ofResults s.results) (interrupted : Bool) :
    (ofSuites suites interrupted).counts = .ofResults (suites.flatMap SuiteSummary.results) := by
  have htally : ∀ s ∈ suites, s.counts.Tally s.results := fun s hs => by
    rw [counted s hs]
    exact Counts.tally_ofResults s.results
  exact (tally_ofSuites htally interrupted).unique (Counts.tally_ofResults _)

/-- A summary that counts its own results says of them what they say. -/
theorem agrees_of_tally {r : RunSummary} {results : List CaseResult}
    (tally : r.counts.Tally results) (own : r.suites.flatMap SuiteSummary.results = results) :
    r.Agrees results := by
  have hfailures : r.failures = results.filter (·.status.isFailure) := by rw [failures, own]
  have hlength : r.failures.length = r.counts.failed + r.counts.errors := by
    rw [hfailures, tally.length_failures]
  refine ⟨tally, tally.balanced, ?_, hlength, ?_⟩
  · rw [hfailures]
    refine List.filter_congr fun x _ => ?_
    cases x.status <;> simp [Status.isFailure]
  · have hnone : r.failures = [] ↔ r.counts.failed = 0 ∧ r.counts.errors = 0 := by
      rw [← List.length_eq_zero_iff, hlength]
      omega
    rw [hnone, isSuccess, Counts.isClean]
    simp [and_comm]

end RunSummary

/-- **What is counted is what there is.**  The summary of each suite counts the results of the
suite, and the summary of a run those of all its suites: how many there are, how many ended in which
way, and how long they took together, as far as 64 bits can tell.  A run lists its failures and
errors in order, and is a success if there are none and it was not interrupted. -/
theorem summaries_agree (parts : List SuiteResults) (interrupted : Bool) :
    (∀ s ∈ parts, s.summary.results = s.results ∧ s.summary.counts.Tally s.results ∧
      s.summary.counts.Balanced) ∧
    (RunSummary.ofSuites (parts.map SuiteResults.summary) interrupted).Agrees
      (parts.flatMap SuiteResults.results) ∧
    (RunSummary.ofSuites (parts.map SuiteResults.summary) interrupted).interrupted =
      interrupted := by
  have htally : ∀ s : SuiteResults, s.summary.counts.Tally s.results :=
    fun s => Counts.tally_ofResults s.results
  have hown : (parts.map SuiteResults.summary).flatMap SuiteSummary.results =
      parts.flatMap SuiteResults.results := List.flatMap_map ..
  refine ⟨fun s _ => ⟨rfl, htally s, (htally s).balanced⟩, ?_, rfl⟩
  refine RunSummary.agrees_of_tally ?_ hown
  rw [← hown]
  refine RunSummary.tally_ofSuites (fun s hs => ?_) interrupted
  obtain ⟨part, -, rfl⟩ := List.mem_map.1 hs
  exact htally part

/-- Two suites that take as long as 64 bits can tell, and one millisecond more: what is left is what
wraps. -/
example :
    let result (status : Status) (ms : Nat) : CaseResult :=
      { CaseResult.plain "s" "s" "c" status with durationMs := ms }
    let parts : List SuiteResults :=
      [⟨"a", "a", .epoch, [result .pass Numeral.max64, result .skip 0]⟩,
        ⟨"b", "b", .epoch, [result .fail 2]⟩]
    (RunSummary.ofSuites (parts.map SuiteResults.summary) false).counts = ⟨3, 1, 1, 1, 0, 1⟩ := by
  decide

end SuiteRunner
