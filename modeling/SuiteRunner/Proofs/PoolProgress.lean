import SuiteRunner.Proofs.PoolInvariant

/-!
# A pool comes to its end

* `Pool.Moves` — the loop, a case or a runner can do something, without anything from the outside;
* **`Pool.Sound.completed_or_moves`** and **`Pool.Sound.interrupted_or_moves`**: a pool that has not
  ended moves, and the interrupt alone decides how it ends.  No history is longer than
  `Pool.length_le`, so a pool that goes on as long as it can comes to its end;
* `Pool.Sound.summary_eq_ofTable` and `Pool.Sound.results_eq` — what a pool sums up once it is
  completed: the results of the launched cases.
-/

namespace SuiteRunner

/-- Summaries of tables that agree at the declared places. -/
theorem RunSummary.ofTable_congr {suites : List Suite} (startedAt : Nat → Instant)
    {table table' : Slot → Option CaseResult}
    (same : ∀ slot ∈ slotsOf suites, table slot = table' slot) (interrupted : Bool) :
    RunSummary.ofTable suites startedAt table interrupted =
      RunSummary.ofTable suites startedAt table' interrupted := by
  rw [RunSummary.ofTable, RunSummary.ofTable, List.filterMap_congr same]
  congr 1
  refine List.filterMap_congr ?_
  rintro ⟨u, i⟩ hu
  have results : ((List.range u.cases.length).filterMap fun c => table ⟨i, c⟩) =
      (List.range u.cases.length).filterMap fun c => table' ⟨i, c⟩ :=
    List.filterMap_congr fun c hc =>
      same ⟨i, c⟩ (mem_slotsOf.2 ⟨u, List.mem_zipIdx_iff_getElem?.1 hu, List.mem_range.1 hc⟩)
  simp only [SuiteSummary.ofTable?, results]

namespace Pool

variable {settings : PoolSettings} {suites : List Suite} {history : List PoolEvent} {p : Pool}

/-- The times at which the suites have started; suites that have not started are given the time of
the summary. -/
def startTimes (p : Pool) (now : Instant) (suite : Nat) : Instant :=
  (p.sink.startedAt? suite).getD now

/-- Holds when the loop or a case can do something, or a runner can end with the outcome of its
case. -/
def Moves (settings : PoolSettings) (outcome : Slot → CaseResult) (p : Pool) : Prop :=
  ∃ e : PoolEvent, e.isSignal = false ∧ Obeys outcome [e] ∧ (p.step? settings e).isSome = true

theorem ended_eq_some {ending : PoolEnd} : p.ended = some ending ↔ p.loop = .finished ending := by
  unfold ended
  cases p.loop <;> simp

/-- A case that is on its way moves. -/
theorem moves_of_onWay (outcome : Slot → CaseResult)
    (h : ¬(p.launched = [] ∧ p.running = [] ∧ p.handed = [])) :
    p.Moves settings outcome := by
  cases hlaunched : p.launched with
  | cons slot rest =>
    refine ⟨.starts slot .epoch, rfl, by simp [Obeys], ?_⟩
    rw [step?, if_pos (allows_starts.2 (by simp [hlaunched]))]
    rfl
  | nil =>
    cases hrunning : p.running with
    | cons slot rest =>
      refine ⟨.hands slot (outcome slot), rfl, by simp [Obeys], ?_⟩
      rw [step?, if_pos (allows_hands.2 (by simp [hrunning]))]
      rfl
    | nil =>
      cases hhanded : p.handed with
      | cons x rest =>
        refine ⟨.leaves x.1 x.2, rfl, by simp [Obeys], ?_⟩
        rw [step?, if_pos (allows_leaves.2 (by simp [hhanded]))]
        rfl
      | nil => exact absurd ⟨hlaunched, hrunning, hhanded⟩ h

namespace Sound

/-- **No pool is stuck.**  While it has not ended, the loop goes on, or something that it waits for
can happen. -/
theorem moves (h : Sound settings suites history p) (outcome : Slot → CaseResult)
    (going : p.ended = none) :
    p.Moves settings outcome := by
  by_cases hway : p.launched = [] ∧ p.running = [] ∧ p.handed = []
  · obtain ⟨hlaunched, hrunning, hhanded⟩ := hway
    cases hloop : p.loop with
    | filling =>
      by_cases hfull : p.hasRoom settings = true → p.queue = []
      · refine ⟨.pause, rfl, by simp [Obeys], ?_⟩
        rw [step?, if_pos (allows_pause.2 ⟨hloop, hfull⟩)]
        rfl
      · rw [Classical.not_imp] at hfull
        obtain ⟨slot, rest, hqueue⟩ := List.exists_cons_of_ne_nil hfull.2
        refine ⟨.launch slot, rfl, by simp [Obeys], ?_⟩
        rw [step?, if_pos (allows_launch.2 ⟨hloop, hfull.1, rest, hqueue⟩)]
        rfl
    | waiting =>
      -- What is in flight and not on its way has left its notice.
      have hflight := h.flow.inFlight_eq
      rw [hlaunched, hrunning, hhanded, h.stand.drops (h.stand.quiet_of_waiting hloop)] at hflight
      have hne : p.notices ≠ [] := by
        intro hnil
        rw [hnil] at hflight
        exact (h.stand.waits hloop).1 hflight
      obtain ⟨failed, rest, hnotices⟩ := List.exists_cons_of_ne_nil hne
      refine ⟨.notice failed, rfl, by simp [Obeys], ?_⟩
      rw [step?, if_pos (allows_notice.2 ⟨hloop, rest, hnotices⟩)]
      rfl
    | joining =>
      refine ⟨.join, rfl, by simp [Obeys], ?_⟩
      rw [step?, if_pos (allows_join.2 ⟨hloop, hlaunched, hrunning, hhanded⟩)]
      rfl
    | finished ending =>
      rw [ended_eq_some.2 hloop] at going
      cases going
  · exact moves_of_onWay outcome hway

theorem completed_or_moves (h : Sound settings suites history p) (outcome : Slot → CaseResult)
    (quiet : .interrupt ∉ history) : p.ended = some .completed ∨ p.Moves settings outcome := by
  cases hended : p.ended with
  | none => exact .inr (h.moves outcome hended)
  | some ending =>
    cases ending with
    | completed => exact .inl rfl
    | interrupted => exact absurd (h.stand.cut.2 (.inr (ended_eq_some.1 hended))) quiet

theorem interrupted_or_moves (h : Sound settings suites history p) (outcome : Slot → CaseResult)
    (stopped : .interrupt ∈ history) : p.ended = some .interrupted ∨ p.Moves settings outcome := by
  cases hended : p.ended with
  | none => exact .inr (h.moves outcome hended)
  | some ending =>
    cases ending with
    | completed => exact absurd stopped (h.stand.quiet_of_completed (ended_eq_some.1 hended))
    | interrupted => exact .inl rfl

end Sound

/-- **No history goes on forever.** -/
theorem length_le (run : (idle suites).run? settings history = some p) :
    history.length ≤ 6 * (slotsOf suites).length + 3 := by
  have hrank := length_add_rank_le run
  rw [rank_idle] at hrank
  omega

/-! ### A completed pool -/

namespace Sound

section Completed

variable (h : Sound settings suites history p) (done : p.ended = some .completed)
include h done

theorem quiet : .interrupt ∉ history := h.stand.quiet_of_completed (ended_eq_some.1 done)

/-- Nothing is left on its way. -/
theorem nothing_left : p.launched = [] ∧ p.running = [] ∧ p.handed = [] ∧ p.notices = [] := by
  have hflight := h.flow.inFlight_eq
  rw [(h.stand.completes (ended_eq_some.1 done)).1] at hflight
  refine ⟨?_, ?_, ?_, ?_⟩ <;> exact List.length_eq_zero_iff.1 (by omega)

/-- Every launched case has handed in its result. -/
theorem handedIn_perm_launchedIn : ((handedIn history).map Prod.fst).Perm (launchedIn history) := by
  obtain ⟨hlaunched, hrunning, -, -⟩ := h.nothing_left done
  have hway := h.flow.onWay
  rw [hlaunched, hrunning, h.stand.drops (h.quiet done), List.append_nil] at hway
  exact hway.symm

/-- All notices were taken. -/
theorem receivedIn_eq : receivedIn history = (leftIn history).map Prod.fst := by
  obtain ⟨-, -, -, hnotices⟩ := h.nothing_left done
  have hsent := congrArg List.length h.flow.sent
  rw [hnotices, List.append_nil, List.length_map] at hsent
  rw [receivedIn, ← hsent]
  exact List.take_of_length_le (Nat.le_of_eq (List.length_map _))

theorem receivedIn_perm_launchedIn : (receivedIn history).Perm (launchedIn history) := by
  obtain ⟨-, -, hhanded, -⟩ := h.nothing_left done
  have hperm := h.flow.handedIn_perm
  rw [hhanded, List.map_nil, List.append_nil] at hperm
  rw [h.receivedIn_eq done]
  exact hperm.symm.trans (h.handedIn_perm_launchedIn done)

theorem summary_eq_ofTable (now : Instant) :
    p.summary now = RunSummary.ofTable suites (p.startTimes now) p.sink.resultAt false := by
  rw [summary, done, ResultSink.finish_eq_ofTable h.kept.fits]
  rfl

/-- **What a completed pool has at each place**: the outcome of the case, if it was launched. -/
theorem resultAt_eq {outcome : Slot → CaseResult} (obeys : Obeys outcome history) (slot : Slot) :
    p.sink.resultAt slot = if slot ∈ launchedIn history then some (outcome slot) else none := by
  rw [h.kept.results, acceptedIn_eq_handedIn (h.quiet done), obeys.lookup_handedIn]
  simp only [(h.handedIn_perm_launchedIn done).mem_iff]

/-- **The results of a completed pool** are those of the launched cases, in the order of their
declaration. -/
theorem results_eq {outcome : Slot → CaseResult} (obeys : Obeys outcome history) (now : Instant) :
    (p.summary now).suites.flatMap SuiteSummary.results = (launchedIn history).map outcome := by
  have hnodup := nodup_slotsOf suites
  rw [h.summary_eq_ofTable done, RunSummary.results_ofTable]
  rw [← h.flow.order] at hnodup ⊢
  rw [List.filterMap_append]
  have hlaunched : (launchedIn history).filterMap p.sink.resultAt =
      (launchedIn history).map outcome := by
    rw [← List.filterMap_eq_map]
    exact List.filterMap_congr fun slot hslot => by rw [h.resultAt_eq done obeys, if_pos hslot]; rfl
  have hqueued : p.queue.filterMap p.sink.resultAt = [] := by
    rw [List.filterMap_eq_nil_iff]
    intro slot hslot
    have hnew : slot ∉ launchedIn history := fun hmem =>
      (List.nodup_append.1 hnodup).2.2 slot hmem slot hslot rfl
    rw [h.resultAt_eq done obeys, if_neg hnew]
  rw [hlaunched, hqueued, List.append_nil]

end Completed

end Sound
end Pool
end SuiteRunner
