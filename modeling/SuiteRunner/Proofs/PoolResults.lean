import SuiteRunner.Proofs.PoolLaunching

/-!
# What a run sums up

* **`Pool.summary_independent_of_order`**: without fail-fast, the summary does not depend on how
  many cases run at once nor on the order in which they end, apart from durations and start times.
  It has every declared case once, with its own result, at its place;
* **`Pool.interrupt_keeps_what_was_handed_in`**: an interrupt keeps exactly the results that were
  handed in before it, wherever it falls between the other events.
-/

namespace SuiteRunner
namespace Pool

variable {settings : PoolSettings} {suites : List Suite} {history : List PoolEvent} {p : Pool}

/-! ### Without fail-fast -/

/-- The summary has every declared case once, with the result that the outcome assigns to it, at its
place. -/
def HasAll (suites : List Suite) (outcome : Slot → CaseResult) (p : Pool) : Prop :=
  ∀ now, p.summary now =
      RunSummary.ofTable suites (p.startTimes now) (fun slot => some (outcome slot)) false ∧
    (p.summary now).suites.flatMap SuiteSummary.results = (slotsOf suites).map outcome

/-- A completed pool that does not stop has launched everything. -/
theorem Sound.launchedIn_eq (h : Sound settings suites history p)
    (steady : settings.failFast = false) (done : p.ended = some .completed) :
    launchedIn history = slotsOf suites := by
  obtain ⟨hflight, hfull⟩ := h.stand.completes (ended_eq_some.1 done)
  have hgoing : p.stopping = false := by
    rw [h.flow.stopped, steady]
    rfl
  rcases h.full hfull hgoing with hlimit | hall
  · have hpos : 0 < settings.limit := Nat.lt_of_lt_of_le Nat.one_pos (Nat.le_max_left _ _)
    omega
  · exact hall

theorem Sound.hasAll (h : Sound settings suites history p) (steady : settings.failFast = false)
    {outcome : Slot → CaseResult} (obeys : Obeys outcome history)
    (done : p.ended = some .completed) : p.HasAll suites outcome := by
  have hall := h.launchedIn_eq steady done
  refine fun now => ⟨?_, by rw [h.results_eq done obeys, hall]⟩
  rw [h.summary_eq_ofTable done]
  exact RunSummary.ofTable_congr _
    (fun slot hslot => by rw [h.resultAt_eq done obeys, hall, if_pos hslot]) _

/-- **The summary does not depend on the order.**  Take two runs of the same suites without
fail-fast, each with its own limit, its own order of events and its own durations, in which no
interrupt comes; interrupts may cease to be listened for at any moment.  Neither goes on forever,
and each can always go on until it is completed.  The two summaries are then equal apart from
durations and start times, and each has every declared case once, with its own result, in its
place. -/
theorem summary_independent_of_order {outcome₁ outcome₂ : Slot → CaseResult}
    (same : ∀ slot, (outcome₁ slot).untimed = (outcome₂ slot).untimed)
    {concurrency₁ concurrency₂ : Nat} {history₁ history₂ : List PoolEvent} {p₁ p₂ : Pool}
    (run₁ : (idle suites).run? ⟨concurrency₁, false⟩ history₁ = some p₁)
    (run₂ : (idle suites).run? ⟨concurrency₂, false⟩ history₂ = some p₂)
    (obeys₁ : Obeys outcome₁ history₁) (obeys₂ : Obeys outcome₂ history₂)
    (quiet₁ : .interrupt ∉ history₁) (quiet₂ : .interrupt ∉ history₂) :
    (history₁.length ≤ 6 * (slotsOf suites).length + 3 ∧
      (p₁.ended = some .completed ∨ p₁.Moves ⟨concurrency₁, false⟩ outcome₁)) ∧
    (history₂.length ≤ 6 * (slotsOf suites).length + 3 ∧
      (p₂.ended = some .completed ∨ p₂.Moves ⟨concurrency₂, false⟩ outcome₂)) ∧
    (p₁.ended = some .completed → p₂.ended = some .completed →
      (∀ now₁ now₂, (p₁.summary now₁).untimed = (p₂.summary now₂).untimed) ∧
      p₁.HasAll suites outcome₁ ∧ p₂.HasAll suites outcome₂) := by
  have sound₁ := sound_of_run run₁
  have sound₂ := sound_of_run run₂
  refine ⟨⟨length_le run₁, sound₁.completed_or_moves outcome₁ quiet₁⟩,
    ⟨length_le run₂, sound₂.completed_or_moves outcome₂ quiet₂⟩, fun done₁ done₂ => ?_⟩
  have all₁ := sound₁.hasAll rfl obeys₁ done₁
  have all₂ := sound₂.hasAll rfl obeys₂ done₂
  refine ⟨fun now₁ now₂ => ?_, all₁, all₂⟩
  rw [(all₁ now₁).1, (all₂ now₂).1]
  refine RunSummary.untimed_ofTable _ _ (fun slot _ => ?_) _
  rw [Option.map_some, Option.map_some, same slot]

/-- One case after the other, while nobody listens for interrupts. -/
def oneByOne : List PoolEvent :=
  [.launch first, .pause, .deaf, .pause] ++ wayOf 7 first ++
    [.notice false, .launch second, .pause] ++ wayOf 7 second ++
    [.notice true, .launch third, .pause] ++ wayOf 7 third ++ [.notice false, .pause]

/-- Two cases at once, of which the second ends first. -/
def twoAtOnce : List PoolEvent :=
  [.launch first, .launch second, .pause] ++ wayOf 3 second ++
    [.notice true, .launch third, .pause] ++ wayOf 3 first ++
    wayOf 3 third ++ [.notice false, .pause, .notice false, .pause]

theorem oneByOne_like_twoAtOnce :
    ∃ p q, (idle threeCases).run? ⟨0, false⟩ oneByOne = some p ∧
      (idle threeCases).run? ⟨2, false⟩ twoAtOnce = some q ∧
      p.ended = some .completed ∧ q.ended = some .completed ∧
      ∀ now later, (p.summary now).untimed = (q.summary later).untimed := by
  have run₁ : (idle threeCases).run? ⟨0, false⟩ oneByOne = some _ := rfl
  have run₂ : (idle threeCases).run? ⟨2, false⟩ twoAtOnce = some _ := rfl
  have same : ∀ slot, (verdict 7 slot).untimed = (verdict 3 slot).untimed := fun _ => rfl
  have both := summary_independent_of_order same run₁ run₂
    (by decide) (by decide) (by decide) (by decide)
  exact ⟨_, _, run₁, run₂, rfl, rfl, (both.2.2 rfl rfl).1⟩

/-! ### With an interrupt -/

/-- What is kept of some members of a list, and nothing of the others. -/
theorem filterMap_ite_some {α β : Type} (q : α → Prop) [DecidablePred q] (f : α → β) (l : List α) :
    (l.filterMap fun a => if q a then some (f a) else none) = (l.filter q).map f := by
  induction l with
  | nil => rfl
  | cons a l ih => by_cases h : q a <;> simp [h, ih]

/-- After an interrupt nothing is launched. -/
theorem launchedIn_after_interrupt {before after : List PoolEvent}
    (run : (idle suites).run? settings (before ++ .interrupt :: after) = some p) :
    launchedIn after = [] := by
  rw [List.eq_nil_iff_forall_not_mem]
  intro slot hslot
  obtain ⟨first, rest, rfl⟩ := List.append_of_mem (mem_launchedIn.1 hslot)
  have hsplit : before ++ .interrupt :: (first ++ .launch slot :: rest) =
      (before ++ .interrupt :: first) ++ .launch slot :: rest := by simp
  rw [hsplit, run?_append] at run
  obtain ⟨q, hq, hrest⟩ := run
  obtain ⟨hloop, -⟩ := allows_launch.1 (run?_cons.1 hrest).1
  exact (sound_of_run hq).stand.quiet_of_filling hloop (by simp)

/-- There is no interrupt before an interrupt. -/
theorem quiet_before_interrupt {before after : List PoolEvent}
    (run : (idle suites).run? settings (before ++ .interrupt :: after) = some p) :
    .interrupt ∉ before := by
  obtain ⟨q, hq, hrest⟩ := run?_append.1 run
  obtain ⟨hloop, -⟩ := allows_interrupt.1 (run?_cons.1 hrest).1
  exact (sound_of_run hq).stand.quiet_of_waiting hloop

/-- The table of the sink after an interrupt is what was handed in before it. -/
theorem resultAt_after_interrupt {before after : List PoolEvent}
    (run : (idle suites).run? settings (before ++ .interrupt :: after) = some p) (slot : Slot) :
    p.sink.resultAt slot = (handedIn before).lookup slot := by
  rw [(sound_of_run run).kept.results, acceptedIn_append _ _ (quiet_before_interrupt run)]
  show (handedIn before ++ []).lookup slot = _
  rw [List.append_nil]

/-- **An interrupt keeps exactly what was handed in before it.**  However the events before and
after it are interleaved, the run ends as interrupted and not as completed; the sink is closed,
nothing more is launched, and the summary has the results that were handed in before the interrupt
and no others, each at its place and equal to the outcome of its case.  A case that is dropped has
no result; nothing that is handed in later changes the sink; and had the run gone on without the
interrupt, every result would be the same. -/
theorem interrupt_keeps_what_was_handed_in {outcome : Slot → CaseResult}
    {before after : List PoolEvent}
    (run : (idle suites).run? settings (before ++ .interrupt :: after) = some p)
    (obeys : Obeys outcome (before ++ .interrupt :: after)) :
    ((before ++ .interrupt :: after).length ≤ 6 * (slotsOf suites).length + 3 ∧
      p.ended ≠ some .completed ∧
      (p.ended = some .interrupted ∨ p.Moves settings outcome)) ∧
    (p.sink.closed = true ∧ launchedIn after = []) ∧
    (∀ now, p.sink.finish true now = RunSummary.ofTable suites (p.startTimes now)
        (fun slot => if slot ∈ (handedIn before).map Prod.fst then some (outcome slot) else none)
        true ∧
      (p.sink.finish true now).suites.flatMap SuiteSummary.results =
        ((slotsOf suites).filter fun slot => slot ∈ (handedIn before).map Prod.fst).map outcome) ∧
    (∀ slot, .drop slot ∈ after → p.sink.resultAt slot = none) ∧
    (∀ slot result, p.sink.forward slot result = p.sink) ∧
    (∀ more q, (idle suites).run? settings (before ++ more) = some q → .interrupt ∉ more →
      ∀ slot result, p.sink.resultAt slot = some result → q.sink.resultAt slot = some result) := by
  have sound := sound_of_run run
  have stopped : .interrupt ∈ before ++ .interrupt :: after := by simp
  have closed : p.sink.closed = true := sound.kept.closed.2 stopped
  have held := resultAt_after_interrupt run
  have hfinish : ∀ now, p.sink.finish true now = RunSummary.ofTable suites (p.startTimes now)
      (fun slot => if slot ∈ (handedIn before).map Prod.fst then some (outcome slot) else none)
      true := by
    intro now
    rw [ResultSink.finish_eq_ofTable sound.kept.fits]
    refine RunSummary.ofTable_congr _ (fun slot _ => ?_) _
    rw [held, obeys.of_append.1.lookup_handedIn]
  refine ⟨⟨length_le run, fun done => sound.quiet done stopped,
      sound.interrupted_or_moves outcome stopped⟩,
    ⟨closed, launchedIn_after_interrupt run⟩, fun now => ⟨hfinish now, ?_⟩, fun slot hdrop => ?_,
    ResultSink.forward_of_closed closed, fun more q hq hmore slot result hresult => ?_⟩
  · rw [hfinish, RunSummary.results_ofTable]
    exact filterMap_ite_some _ outcome (slotsOf suites)
  · -- A case that was dropped has not handed in a result.
    have hdropped : slot ∈ droppedIn (before ++ .interrupt :: after) :=
      mem_droppedIn.2 (List.mem_append_right _ (List.mem_cons_of_mem _ hdrop))
    have hone := sound.flow.count_le_one slot
    have hpos := List.count_pos_iff.2 hdropped
    have hnone : slot ∉ (handedIn (before ++ .interrupt :: after)).map Prod.fst :=
      List.count_eq_zero.1 (by omega)
    rw [handedIn_append, List.map_append, List.mem_append, not_or] at hnone
    rw [held, lookup_eq_none_of_notMem hnone.1]
  · have quiet : .interrupt ∉ before ++ more := by
      rw [List.mem_append]
      exact not_or.2 ⟨quiet_before_interrupt run, hmore⟩
    rw [(sound_of_run hq).kept.results, acceptedIn_eq_handedIn quiet, handedIn_append,
      List.lookup_append, ← held, hresult]
    rfl

/-- The first case has handed in its result when the interrupt comes; it leaves its notice later. -/
def handedBefore : List PoolEvent :=
  [.launch first, .launch second, .pause, .starts first .epoch, .starts second .epoch,
    .hands first (verdict 3 first)]

/-- The second case is dropped. -/
def droppedAfter : List PoolEvent := [.drop second, .leaves first false, .join]

theorem handedBefore_kept :
    ∃ p, (idle threeCases).run? ⟨2, true⟩ (handedBefore ++ .interrupt :: droppedAfter) = some p ∧
      p.ended = some .interrupted ∧ launchedIn droppedAfter = [] ∧ p.sink.resultAt second = none ∧
      ∀ now, (p.sink.finish true now = RunSummary.ofTable threeCases (p.startTimes now)
          (fun slot => if slot ∈ [first] then some (verdict 3 slot) else none) true) ∧
        (p.sink.finish true now).suites.flatMap SuiteSummary.results = [verdict 3 first] := by
  have run : (idle threeCases).run? ⟨2, true⟩
      (handedBefore ++ .interrupt :: droppedAfter) = some _ := rfl
  have obeys : Obeys (verdict 3) (handedBefore ++ .interrupt :: droppedAfter) := by decide
  obtain ⟨-, ⟨-, hlaunched⟩, hfinish, hdropped, -⟩ := interrupt_keeps_what_was_handed_in run obeys
  exact ⟨_, run, rfl, hlaunched, hdropped second (by decide), hfinish⟩

end Pool
end SuiteRunner
