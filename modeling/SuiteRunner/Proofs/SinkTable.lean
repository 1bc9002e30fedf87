import Mathlib.Data.List.Nodup
import SuiteRunner.Execution.Pool
import SuiteRunner.Proofs.SummaryCounts

/-!
# The sink as a table

A sink keeps a table: at each place of a case there is a result or none.  What a sink sums up
depends on nothing else but this table and the times at which its suites have started.

* `ResultSink.Fits` — the sink has exactly the places of some suites; every operation keeps this;
* `ResultSink.resultAt`, the table, with one equation for each operation;
* `RunSummary.ofTable`, the summary of a table, with **`RunSummary.results_ofTable`**: it has the
  results of the table in their order; and **`ResultSink.finish_eq_ofTable`**: the summary of a sink
  is the summary of its table;
* `RunSummary.untimed` — a summary without what was measured, and `untimed_ofTable`: it depends only
  on the results without their durations.
-/

namespace SuiteRunner

/-! ### Slots -/

theorem mem_slotsOf {suites : List Suite} {slot : Slot} :
    slot ∈ slotsOf suites ↔ ∃ u, suites[slot.suite]? = some u ∧ slot.case < u.cases.length := by
  obtain ⟨i, c⟩ := slot
  simp only [slotsOf, List.mem_flatMap, Prod.exists, List.mem_zipIdx_iff_getElem?, List.mem_map,
    List.mem_range, Slot.mk.injEq]
  constructor
  · rintro ⟨u, j, hu, d, hd, rfl, rfl⟩
    exact ⟨u, hu, hd⟩
  · rintro ⟨u, hu, hc⟩
    exact ⟨u, i, hu, c, hc, rfl, rfl⟩

/-- No slot is declared twice. -/
theorem nodup_slotsOf (suites : List Suite) : (slotsOf suites).Nodup := by
  rw [slotsOf, List.nodup_flatMap]
  constructor
  · rintro ⟨u, i⟩ -
    exact List.nodup_range.map fun c d h => (Slot.mk.inj h).2
  · have distinct : (suites.zipIdx.map Prod.snd).Nodup := by
      rw [List.zipIdx_map_snd]
      exact List.nodup_range'
    refine (List.pairwise_map.1 distinct).imp ?_
    rintro ⟨u, i⟩ ⟨v, j⟩ (hij : i ≠ j)
    simp only [Function.onFun, List.disjoint_left, List.mem_map, not_exists, not_and]
    rintro _ ⟨c, -, rfl⟩ d - h
    exact hij (Slot.mk.inj h).1.symm

/-! ### The table of a sink -/

namespace SuiteSlots

/-- What is fixed from the beginning: the names, and how many places there are. -/
def frame (u : SuiteSlots) : String × String × Nat := (u.suite, u.className, u.results.length)

/-- The places of a suite, filled from a table. -/
def ofTable (u : Suite) (i : Nat) (startedAt : Option Instant) (table : Slot → Option CaseResult) :
    SuiteSlots :=
  ⟨u.name, u.className, startedAt, (List.range u.cases.length).map fun c => table ⟨i, c⟩⟩

theorem frame_start (u : SuiteSlots) (now : Instant) : (u.start now).frame = u.frame := rfl

theorem frame_record (u : SuiteSlots) (c : Nat) (r : CaseResult) :
    (u.record c r).frame = u.frame := by
  simp [frame, record]

end SuiteSlots

namespace ResultSink

/-- The result at a place, if there is one. -/
def resultAt (s : ResultSink) (slot : Slot) : Option CaseResult :=
  (s.suites[slot.suite]?.bind fun u => u.results[slot.case]?).join

/-- When a suite has started, if it has. -/
def startedAt? (s : ResultSink) (suite : Nat) : Option Instant :=
  s.suites[suite]?.bind SuiteSlots.startedAt

/-- The sink has the places of the suites, and their names. -/
def Fits (s : ResultSink) (suites : List Suite) : Prop :=
  s.suites.map SuiteSlots.frame = suites.map fun u => (u.name, u.className, u.cases.length)

theorem map_modify_of_eq {α β : Type} (f : α → α) (g : α → β) (h : ∀ a, g (f a) = g a)
    (l : List α) (i : Nat) :
    (l.modify i f).map g = l.map g := by
  apply List.ext_getElem?
  intro j
  rw [List.getElem?_map, List.getElem?_map, List.getElem?_modify]
  cases l[j]? with
  | none => rfl
  | some a =>
    by_cases hij : i = j
    · simp [hij, h]
    · simp [hij]

theorem fits_ofSuites (suites : List Suite) : (ofSuites suites).Fits suites := by
  simp [Fits, ofSuites, SuiteSlots.ofSuite, SuiteSlots.frame, Function.comp_def]

theorem Fits.start {s : ResultSink} {suites : List Suite} (h : s.Fits suites) (i : Nat)
    (now : Instant) :
    (s.start i now).Fits suites := by
  rw [Fits, ResultSink.start, map_modify_of_eq _ _ fun u => u.frame_start now]
  exact h

theorem Fits.forward {s : ResultSink} {suites : List Suite} (h : s.Fits suites) (slot : Slot)
    (r : CaseResult) :
    (s.forward slot r).Fits suites := by
  unfold ResultSink.forward
  split
  · exact h
  · rw [Fits, map_modify_of_eq _ _ fun u => u.frame_record slot.case r]
    exact h

theorem Fits.close {s : ResultSink} {suites : List Suite} (h : s.Fits suites) :
    s.close.Fits suites := h

/-- A sink that fits has the suites at their numbers. -/
theorem Fits.getElem? {s : ResultSink} {suites : List Suite} (h : s.Fits suites) (i : Nat) :
    s.suites[i]?.map SuiteSlots.frame =
      suites[i]?.map fun u => (u.name, u.className, u.cases.length) := by
  have hi := congrArg (·[i]?) h
  simpa only [List.getElem?_map] using hi

theorem resultAt_ofSuites (suites : List Suite) (slot : Slot) :
    (ofSuites suites).resultAt slot = none := by
  unfold resultAt ofSuites
  rw [List.getElem?_map]
  cases suites[slot.suite]? with
  | none => rfl
  | some u =>
    simp only [Option.map_some, Option.bind_some, SuiteSlots.ofSuite, List.getElem?_replicate]
    split <;> rfl

@[simp] theorem resultAt_start (s : ResultSink) (i : Nat) (now : Instant) (slot : Slot) :
    (s.start i now).resultAt slot = s.resultAt slot := by
  unfold resultAt start
  rw [List.getElem?_modify]
  cases s.suites[slot.suite]? with
  | none => rfl
  | some u =>
    by_cases hi : i = slot.suite
    · simp [hi, SuiteSlots.start]
    · simp [hi]

@[simp] theorem resultAt_close (s : ResultSink) (slot : Slot) :
    s.close.resultAt slot = s.resultAt slot := rfl

/-- **A closed sink keeps what it has.** -/
theorem forward_of_closed {s : ResultSink} (h : s.closed = true) (slot : Slot) (r : CaseResult) :
    s.forward slot r = s := by
  simp [forward, h]

@[simp] theorem closed_start (s : ResultSink) (i : Nat) (now : Instant) :
    (s.start i now).closed = s.closed := rfl

@[simp] theorem closed_close (s : ResultSink) : s.close.closed = true := rfl

@[simp] theorem closed_forward (s : ResultSink) (slot : Slot) (r : CaseResult) :
    (s.forward slot r).closed = s.closed := by
  unfold forward
  split <;> rfl

/-- **A result is kept at its place.**  An open sink with that place changes its table there and
nowhere else. -/
theorem resultAt_forward {s : ResultSink} {suites : List Suite} (fits : s.Fits suites)
    (opened : s.closed = false)
    {slot : Slot} (declared : slot ∈ slotsOf suites) (r : CaseResult) (place : Slot) :
    (s.forward slot r).resultAt place = if place = slot then some r else s.resultAt place := by
  obtain ⟨u, hu, hc⟩ := mem_slotsOf.1 declared
  obtain ⟨v, hv, hf⟩ : ∃ v, s.suites[slot.suite]? = some v ∧
      v.frame = (u.name, u.className, u.cases.length) := by
    have hfits := fits.getElem? slot.suite
    rw [hu] at hfits
    exact Option.map_eq_some_iff.1 hfits
  have hlen : slot.case < v.results.length := by
    have : v.results.length = u.cases.length := congrArg (·.2.2) hf
    omega
  unfold resultAt forward
  simp only [opened, Bool.false_eq_true, if_false, List.getElem?_modify]
  by_cases hs : slot.suite = place.suite
  · rw [← hs, hv]
    by_cases hcase : slot.case = place.case
    · have hplace : place = slot := by
        cases slot
        cases place
        simp_all
      simp [hplace, SuiteSlots.record, hlen]
    · have hplace : place ≠ slot := fun h => hcase (h ▸ rfl)
      simp [hplace, SuiteSlots.record, hcase]
  · have hplace : place ≠ slot := fun h => hs (h ▸ rfl)
    simp [hs, hplace]

end ResultSink

/-! ### Summaries of tables -/

/-- The summary of a suite from a table; nothing if the table has no result for it. -/
def SuiteSummary.ofTable? (u : Suite) (i : Nat) (startedAt : Instant)
    (table : Slot → Option CaseResult) :
    Option SuiteSummary :=
  let results := (List.range u.cases.length).filterMap fun c => table ⟨i, c⟩
  if results.isEmpty then none
  else some ⟨u.name, u.className, startedAt, .ofResults results, results⟩

/-- The summary of a table: the suites in their order, each with the results of its cases in their
order, and the counts of all these results; suites without a result are left out. -/
def RunSummary.ofTable (suites : List Suite) (startedAt : Nat → Instant)
    (table : Slot → Option CaseResult)
    (interrupted : Bool) : RunSummary where
  suites := suites.zipIdx.filterMap fun (u, i) => SuiteSummary.ofTable? u i (startedAt i) table
  counts := .ofResults ((slotsOf suites).filterMap table)
  interrupted := interrupted

theorem SuiteSlots.summary?_ofTable (u : Suite) (i : Nat) (at? : Option Instant)
    (table : Slot → Option CaseResult)
    (now : Instant) :
    (SuiteSlots.ofTable u i at? table).summary? now =
      SuiteSummary.ofTable? u i (at?.getD now) table := by
  simp only [summary?, recorded, SuiteSlots.ofTable, SuiteSummary.ofTable?, SuiteSummary.ofResults,
    List.filterMap_map, Function.comp_def, id]

theorem SuiteSummary.results_ofTable? (u : Suite) (i : Nat) (startedAt : Instant)
    (table : Slot → Option CaseResult) :
    ((SuiteSummary.ofTable? u i startedAt table).elim [] SuiteSummary.results) =
      (List.range u.cases.length).filterMap fun c => table ⟨i, c⟩ := by
  unfold SuiteSummary.ofTable?
  cases h : (List.range u.cases.length).filterMap fun c => table ⟨i, c⟩ with
  | nil => rfl
  | cons r rs => rfl

namespace RunSummary

variable (suites : List Suite) (startedAt : Nat → Instant) (table : Slot → Option CaseResult)
  (interrupted : Bool)

/-- **The results in a summary** are those of the table, each once, in the order of their places. -/
theorem results_ofTable :
    (ofTable suites startedAt table interrupted).suites.flatMap SuiteSummary.results =
      (slotsOf suites).filterMap table := by
  have perSuite : ∀ (f : Suite × Nat → Option SuiteSummary) (l : List (Suite × Nat)),
      (l.filterMap f).flatMap SuiteSummary.results =
        l.flatMap fun x => (f x).elim [] SuiteSummary.results := by
    intro f l
    induction l with
    | nil => rfl
    | cons x l ih => cases hx : f x <;> simp [hx, ih]
  rw [ofTable, perSuite, slotsOf, List.filterMap_flatMap]
  simp only [SuiteSummary.results_ofTable?, List.filterMap_map, Function.comp_def]

/-- Each suite counts its own results. -/
theorem counted_of_mem_ofTable : ∀ u ∈ (ofTable suites startedAt table interrupted).suites,
    u.counts = .ofResults u.results := by
  intro u hu
  obtain ⟨⟨suite, i⟩, -, h⟩ := List.mem_filterMap.1 hu
  simp only [SuiteSummary.ofTable?] at h
  split at h
  · cases h
  · cases h
    rfl

/-- The summary of a table sums up its suites. -/
theorem ofTable_eq_ofSuites : ofTable suites startedAt table interrupted =
    ofSuites (ofTable suites startedAt table interrupted).suites interrupted := by
  have hcounts := counts_ofSuites (counted_of_mem_ofTable suites startedAt table interrupted)
    interrupted
  rw [results_ofTable] at hcounts
  rw [show ofSuites (ofTable suites startedAt table interrupted).suites interrupted =
    ⟨_, _, _⟩ from rfl, mk.injEq]
  exact ⟨rfl, hcounts.symm, rfl⟩

end RunSummary

namespace ResultSink

/-- The places of a suite are filled from the table. -/
theorem Fits.eq_ofTable {s : ResultSink} {suites : List Suite} (h : s.Fits suites) :
    s.suites = suites.zipIdx.map fun (u, i) =>
      SuiteSlots.ofTable u i (s.startedAt? i) s.resultAt := by
  apply List.ext_getElem?
  intro i
  have hi := h.getElem? i
  rw [List.getElem?_map, List.getElem?_zipIdx]
  cases hu : suites[i]? with
  | none =>
    rw [hu, Option.map_none, Option.map_eq_none_iff] at hi
    rw [hi]
    rfl
  | some u =>
    rw [hu, Option.map_some, Option.map_eq_some_iff] at hi
    obtain ⟨v, hv, hf⟩ := hi
    obtain ⟨hname, hclass, hlen⟩ :
        v.suite = u.name ∧ v.className = u.className ∧ v.results.length = u.cases.length := by
      simpa [SuiteSlots.frame] using hf
    have hresults : (List.range u.cases.length).map (fun c => s.resultAt ⟨i, c⟩) = v.results := by
      apply List.ext_getElem
      · simp [hlen]
      · intro c hc hc'
        simp [resultAt, hv, hc']
    have hstarted : s.startedAt? i = v.startedAt := by simp [startedAt?, hv]
    simp only [hv, Option.map_some, Nat.zero_add, SuiteSlots.ofTable, hresults, hstarted,
      ← hname, ← hclass]

/-- **The summary of a sink is the summary of its table.** -/
theorem finish_eq_ofTable {s : ResultSink} {suites : List Suite} (h : s.Fits suites)
    (interrupted : Bool)
    (now : Instant) :
    s.finish interrupted now =
      RunSummary.ofTable suites (fun i => (s.startedAt? i).getD now) s.resultAt interrupted := by
  rw [finish, RunSummary.ofTable_eq_ofSuites]
  congr 1
  rw [h.eq_ofTable, List.filterMap_map]
  refine List.filterMap_congr ?_
  rintro ⟨u, i⟩ -
  exact SuiteSlots.summary?_ofTable u i (s.startedAt? i) s.resultAt now

end ResultSink

/-! ### Summaries without what was measured -/

/-- Counts without the duration. -/
def Counts.untimed (c : Counts) : Counts := { c with durationMs := 0 }

/-- A summary without the start of its suite and without durations. -/
def SuiteSummary.untimed (s : SuiteSummary) : SuiteSummary :=
  { s with
    startedAt := .epoch
    counts := s.counts.untimed
    results := s.results.map CaseResult.untimed }

/-- A summary without the starts of its suites and without durations. -/
def RunSummary.untimed (r : RunSummary) : RunSummary :=
  { r with suites := r.suites.map SuiteSummary.untimed, counts := r.counts.untimed }

theorem Counts.withStatus_untimed (status : Status) (rs : List CaseResult) :
    Counts.withStatus status (rs.map CaseResult.untimed) = Counts.withStatus status rs := by
  rw [withStatus, withStatus, List.filter_map, List.length_map]
  rfl

theorem Counts.untimed_ofResults (rs : List CaseResult) :
    (Counts.ofResults (rs.map CaseResult.untimed)).untimed = (Counts.ofResults rs).untimed := by
  simp only [ofResults, untimed, List.length_map, withStatus_untimed]

/-- The counts without the duration depend on the results without their durations. -/
theorem Counts.untimed_ofResults_congr {rs rs' : List CaseResult}
    (h : rs.map CaseResult.untimed = rs'.map CaseResult.untimed) :
    (Counts.ofResults rs).untimed = (Counts.ofResults rs').untimed := by
  rw [← untimed_ofResults, h, untimed_ofResults]

theorem SuiteSummary.untimed_ofTable? (u : Suite) (i : Nat) (startedAt startedAt' : Instant)
    {table table' : Slot → Option CaseResult}
    (same : ∀ c < u.cases.length,
      (table ⟨i, c⟩).map CaseResult.untimed = (table' ⟨i, c⟩).map CaseResult.untimed) :
    (SuiteSummary.ofTable? u i startedAt table).map SuiteSummary.untimed =
      (SuiteSummary.ofTable? u i startedAt' table').map SuiteSummary.untimed := by
  have results :
      ((List.range u.cases.length).filterMap fun c => table ⟨i, c⟩).map CaseResult.untimed =
      ((List.range u.cases.length).filterMap fun c => table' ⟨i, c⟩).map CaseResult.untimed := by
    rw [List.map_filterMap, List.map_filterMap]
    exact List.filterMap_congr fun c hc => same c (List.mem_range.1 hc)
  have empty := congrArg List.isEmpty results
  rw [List.isEmpty_map, List.isEmpty_map] at empty
  simp only [SuiteSummary.ofTable?, empty]
  split
  · rfl
  · simp only [Option.map_some, SuiteSummary.untimed, Counts.untimed_ofResults_congr results,
      results]

/-- **Without what was measured, a summary depends only on the results without their durations.** -/
theorem RunSummary.untimed_ofTable {suites : List Suite} (startedAt startedAt' : Nat → Instant)
    {table table' : Slot → Option CaseResult}
    (same : ∀ slot ∈ slotsOf suites,
      (table slot).map CaseResult.untimed = (table' slot).map CaseResult.untimed)
    (interrupted : Bool) :
    (RunSummary.ofTable suites startedAt table interrupted).untimed =
      (RunSummary.ofTable suites startedAt' table' interrupted).untimed := by
  have results : ((slotsOf suites).filterMap table).map CaseResult.untimed =
      ((slotsOf suites).filterMap table').map CaseResult.untimed := by
    rw [List.map_filterMap, List.map_filterMap]
    exact List.filterMap_congr same
  rw [RunSummary.ofTable, RunSummary.ofTable, untimed, untimed,
    Counts.untimed_ofResults_congr results, List.map_filterMap, List.map_filterMap]
  congr 1
  refine List.filterMap_congr ?_
  rintro ⟨u, i⟩ hu
  refine SuiteSummary.untimed_ofTable? u i _ _ fun c hc => same ⟨i, c⟩ ?_
  exact mem_slotsOf.2 ⟨u, List.mem_zipIdx_iff_getElem?.1 hu, hc⟩

end SuiteRunner
