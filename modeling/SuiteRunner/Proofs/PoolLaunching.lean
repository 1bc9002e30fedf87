import SuiteRunner.Proofs.PoolProgress

/-!
# Which cases are launched

* **`Pool.launching_in_bounds`**: at all times the launched cases are a beginning of the declared
  ones, no more of them are in flight than the limit allows, and the loop waits only if it can
  launch nothing.  A completed pool has the result of every launched case;
* **`Pool.failFast_launches_exactly`**: with fail-fast, the cases that are launched are the first
  ones, and their number is the limit more than the number of notices before the first one of a
  failure.

The number of launched cases is pinned down when the loop begins to stop (`launched_of_stopping`);
with a limit of one, the cases leave their notices in the order in which they were launched
(`inLine_of_run`).
-/

namespace SuiteRunner

/-- How many cases come before the first one that fails. -/
def beforeFailure (outcome : Slot → CaseResult) (slots : List Slot) : Nat :=
  (slots.takeWhile fun slot => !(outcome slot).status.isFailure).length

/-- How many notices come before the first one of a failure. -/
def noticesBeforeFailure (notices : List Bool) : Nat :=
  (notices.takeWhile fun failed => !failed).length

theorem noticesBeforeFailure_append_of_mem {notices : List Bool} (h : true ∈ notices)
    (later : List Bool) :
    noticesBeforeFailure (notices ++ later) = noticesBeforeFailure notices := by
  have hne : (notices.takeWhile fun failed => !failed).length ≠ notices.length := by
    intro hlen
    have hall : notices.takeWhile (fun failed => !failed) = notices :=
      (List.takeWhile_prefix _).eq_of_length hlen
    have htrue := List.all_eq_true.1 List.all_takeWhile true (hall.symm ▸ h)
    cases htrue
  rw [noticesBeforeFailure, List.takeWhile_append, if_neg hne]
  rfl

theorem noticesBeforeFailure_of_not_mem {notices : List Bool} (h : true ∉ notices)
    (later : List Bool) :
    noticesBeforeFailure (notices ++ later) = notices.length + noticesBeforeFailure later := by
  have hall : ∀ failed ∈ notices, (!failed) = true := by
    intro failed hfailed
    cases failed with
    | true => exact absurd hfailed h
    | false => rfl
  rw [noticesBeforeFailure, List.takeWhile_append_of_pos hall, List.length_append]
  rfl

/-- A beginning that ends just after the cases before its first failure ends just after those before
the first failure of all. -/
theorem beforeFailure_take_succ {outcome : Slot → CaseResult} {slots l : List Slot}
    (h : l = slots.take (beforeFailure outcome l + 1)) :
    beforeFailure outcome l = beforeFailure outcome slots := by
  have hmin : beforeFailure outcome l =
      min (beforeFailure outcome l + 1) (beforeFailure outcome slots) := by
    conv_lhs => rw [h, beforeFailure, ← List.take_takeWhile, List.length_take]
    rfl
  omega

theorem eq_singleton_of_mem {α : Type} {l : List α} {a : α} (h : a ∈ l) (hlen : l.length ≤ 1) :
    l = [a] := by
  have hpos := List.length_pos_of_mem h
  obtain ⟨b, rfl⟩ := List.length_eq_one_iff.1 (by omega : l.length = 1)
  rw [List.mem_singleton.1 h]

namespace Pool

variable {settings : PoolSettings} {suites : List Suite} {history : List PoolEvent} {p : Pool}

/-! ### Full pools -/

namespace Sound

theorem launchedIn_begins (h : Sound settings suites history p) :
    launchedIn history <+: slotsOf suites :=
  ⟨p.queue, h.flow.order⟩

theorem launchedIn_eq_take (h : Sound settings suites history p) {n : Nat}
    (hlen : (launchedIn history).length = min (slotsOf suites).length n) :
    launchedIn history = (slotsOf suites).take n := by
  have htake := List.prefix_iff_eq_take.1 h.launchedIn_begins
  rw [hlen] at htake
  rw [htake, List.take_eq_take_iff]
  omega

/-- A full pool that does not stop has as much in flight as may be, or has launched everything. -/
theorem full (h : Sound settings suites history p) (hfull : p.IsFull settings)
    (going : p.stopping = false) :
    p.inFlight = settings.limit ∨ launchedIn history = slotsOf suites := by
  by_cases hroom : p.inFlight < settings.limit
  · right
    have hqueue := hfull (by simp [hasRoom, hroom, going])
    have horder := h.flow.order
    rwa [hqueue, List.append_nil] at horder
  · left
    have hbound := h.flow.bounded
    omega

/-- What was launched when a full pool does not stop yet. -/
theorem launched_of_full (h : Sound settings suites history p) (hfull : p.IsFull settings)
    (going : p.stopping = false) :
    (launchedIn history).length =
      min (slotsOf suites).length ((noticesIn history).length + settings.limit) := by
  have hcounted := h.flow.counted
  have hbound := h.flow.bounded
  have hle := h.launchedIn_begins.length_le
  rcases h.full hfull going with hflight | hall
  · omega
  · rw [hall] at hcounted hle ⊢
    omega

/-- The notices that were taken say what their cases have come to. -/
theorem noticesIn_eq (h : Sound settings suites history p) {outcome : Slot → CaseResult}
    (obeys : Obeys outcome history) :
    noticesIn history = (receivedIn history).map fun slot => (outcome slot).status.isFailure := by
  have hflags : ∀ x ∈ leftIn history, x.2 = (outcome x.1).status.isFailure := by
    intro x hx
    obtain ⟨⟨slot, result⟩, hmem, rfl⟩ :=
      List.mem_map.1 (h.flow.owed.mem_iff.2 (List.mem_append_left p.handed hx))
    rw [obeys slot result (mem_handedIn.1 hmem)]
  have hleft : (leftIn history).map Prod.snd =
      ((leftIn history).map Prod.fst).map fun slot => (outcome slot).status.isFailure := by
    rw [List.map_map]
    exact List.map_congr_left hflags
  have hsent := h.flow.sent
  rw [hleft] at hsent
  rw [receivedIn, List.map_take, hsent, List.take_left]

end Sound

/-! ### Launching stops -/

/-- **When the loop begins to stop, the number of launched cases is settled.** -/
theorem launched_of_stopping (run : (idle suites).run? settings history = some p)
    (stopping : p.stopping = true) :
    (launchedIn history).length =
      min (slotsOf suites).length (noticesBeforeFailure (noticesIn history) + settings.limit) := by
  refine sound_induction (motive := fun history p => p.stopping = true →
    (launchedIn history).length = min (slotsOf suites).length
      (noticesBeforeFailure (noticesIn history) + settings.limit)) ?_ ?_ run stopping
  · exact fun h => by cases h
  intro history p e sound ih allowed hstopping
  rw [launchedIn_append, noticesIn_append]
  cases e with
  | launch slot =>
    -- Nothing is launched by a loop that stops.
    obtain ⟨-, hroom, -⟩ := allows_launch.1 allowed
    have hgoing : p.stopping = true := hstopping
    simp [hasRoom, hgoing] at hroom
  | notice failed =>
    obtain ⟨hloop, -⟩ := allows_notice.1 allowed
    show (launchedIn history ++ []).length =
      min _ (noticesBeforeFailure (noticesIn history ++ [failed]) + settings.limit)
    rw [List.append_nil]
    cases hbefore : p.stopping with
    | true =>
      have hmem : true ∈ noticesIn history := by
        have hstopped := sound.flow.stopped
        rw [hbefore] at hstopped
        simpa using (Bool.and_eq_true_iff.1 hstopped.symm).2
      rw [noticesBeforeFailure_append_of_mem hmem]
      exact ih hbefore
    | false =>
      obtain ⟨hfailed, hfast⟩ : failed = true ∧ settings.failFast = true := by
        simpa [Pool.apply, hbefore] using hstopping
      have hmem : true ∉ noticesIn history := by
        have hstopped := sound.flow.stopped
        rw [hbefore, hfast] at hstopped
        simpa using hstopped
      rw [noticesBeforeFailure_of_not_mem hmem, hfailed]
      exact sound.launched_of_full (sound.stand.waits hloop).2 hbefore
  | _ =>
    have hlaunched := ih hstopping
    simpa [launchedIn, noticesIn] using hlaunched

theorem noticesBeforeFailure_map (outcome : Slot → CaseResult) (slots : List Slot) :
    noticesBeforeFailure (slots.map fun slot => (outcome slot).status.isFailure) =
      beforeFailure outcome slots := by
  rw [noticesBeforeFailure, List.takeWhile_map, List.length_map]
  rfl

/-- With fail-fast, this many cases were launched when the pool is completed. -/
theorem launched_of_completed (run : (idle suites).run? settings history = some p)
    (fast : settings.failFast = true) (done : p.ended = some .completed)
    {outcome : Slot → CaseResult} (obeys : Obeys outcome history) :
    (launchedIn history).length =
      min (slotsOf suites).length
        (beforeFailure outcome (receivedIn history) + settings.limit) := by
  have sound := sound_of_run run
  rw [← noticesBeforeFailure_map, ← sound.noticesIn_eq obeys]
  cases hstopping : p.stopping with
  | true => exact launched_of_stopping run hstopping
  | false =>
    -- No notice of a failure was taken.
    have hmem : true ∉ noticesIn history := by
      have hstopped := sound.flow.stopped
      rw [hstopping, fast] at hstopped
      simpa using hstopped
    have hall := noticesBeforeFailure_of_not_mem hmem []
    rw [List.append_nil] at hall
    rw [hall]
    exact sound.launched_of_full (sound.stand.completes (ended_eq_some.1 done)).2 hstopping

/-- **With a limit of one, the cases go one after the other**: they leave their notices in the order
in which they were launched. -/
theorem inLine_of_run (one : settings.limit = 1)
    (run : (idle suites).run? settings history = some p)
    (quiet : .interrupt ∉ history) :
    launchedIn history = (leftIn history).map Prod.fst ++
      (p.handed.map Prod.fst ++ p.running ++ p.launched) := by
  refine sound_induction (motive := fun history p => .interrupt ∉ history →
    launchedIn history = (leftIn history).map Prod.fst ++
      (p.handed.map Prod.fst ++ p.running ++ p.launched))
    (fun _ => rfl) ?_ run quiet
  intro history p e sound ih allowed hlater
  have hquiet : .interrupt ∉ history := fun hmem => hlater (List.mem_append_left _ hmem)
  -- At most one case is on its way.
  have hlen : p.launched.length + p.running.length + p.handed.length ≤ 1 := by
    have hflight := sound.flow.inFlight_eq
    have hbound := sound.flow.bounded
    omega
  rw [launchedIn_append, leftIn_append, ih hquiet]
  cases e with
  | launch slot => simp [launchedIn, leftIn, Pool.apply]
  | starts slot now =>
    have hslot := allows_starts.1 allowed
    have hlaunched := eq_singleton_of_mem hslot (by omega)
    rw [hlaunched, List.length_singleton] at hlen
    have hrunning : p.running = [] := List.length_eq_zero_iff.1 (by omega)
    simp [launchedIn, leftIn, Pool.apply, hlaunched, hrunning]
  | hands slot result =>
    have hslot := allows_hands.1 allowed
    have hrunning := eq_singleton_of_mem hslot (by omega)
    rw [hrunning, List.length_singleton] at hlen
    have hhanded : p.handed = [] := List.length_eq_zero_iff.1 (by omega)
    simp [launchedIn, leftIn, Pool.apply, hrunning, hhanded]
  | leaves slot failed =>
    have hslot := allows_leaves.1 allowed
    have hhanded := eq_singleton_of_mem hslot (by omega)
    simp [launchedIn, leftIn, Pool.apply, hhanded]
  | drop slot =>
    obtain ⟨hloop, -⟩ := allows_drop.1 allowed
    exact absurd (sound.stand.cut.2 (.inl hloop)) hquiet
  | _ => simp [launchedIn, leftIn, Pool.apply]

/-! ### The main statements -/

/-- **Launching keeps its bounds, whatever happens.**  At every moment of every run the loop counts
the launched cases whose notices it has not taken, and these are never more than the limit; the
launched cases are a beginning of the declared ones, and none is launched twice; when the loop
waits, as many are in flight as may be, or all were launched, or fail-fast has stopped launching.
When the run is completed, no launched case is on its way, and the summary has the result of every
launched case at its place: its results are those that the sink has, in the order of their
places. -/
theorem launching_in_bounds (run : (idle suites).run? settings history = some p) :
    ((launchedIn history).length = (noticesIn history).length + p.inFlight ∧
      p.inFlight ≤ max 1 settings.concurrency) ∧
    (launchedIn history <+: slotsOf suites ∧ (launchedIn history).Nodup) ∧
    (p.loop = .waiting → p.inFlight = max 1 settings.concurrency ∨
      launchedIn history = slotsOf suites ∨
      (settings.failFast = true ∧ true ∈ noticesIn history)) ∧
    (p.ended = some .completed →
      (p.launched = [] ∧ p.running = [] ∧ p.handed = []) ∧
      (∀ now,
        p.summary now = RunSummary.ofTable suites (p.startTimes now) p.sink.resultAt false ∧
        (p.summary now).suites.flatMap SuiteSummary.results =
          (slotsOf suites).filterMap p.sink.resultAt) ∧
      ∀ slot ∈ launchedIn history, ∃ result, .hands slot result ∈ history ∧
        p.sink.resultAt slot = some result) := by
  have sound := sound_of_run run
  refine ⟨⟨sound.flow.counted, sound.flow.bounded⟩,
    ⟨sound.launchedIn_begins, sound.flow.nodup_launchedIn⟩, ?_, ?_⟩
  · intro hloop
    cases hstopping : p.stopping with
    | false =>
      rcases sound.full (sound.stand.waits hloop).2 hstopping with hflight | hall
      · exact .inl hflight
      · exact .inr (.inl hall)
    | true =>
      have hstopped := sound.flow.stopped
      rw [hstopping] at hstopped
      exact .inr (.inr (by simpa using hstopped.symm))
  · intro done
    obtain ⟨hlaunched, hrunning, hhanded, -⟩ := sound.nothing_left done
    refine ⟨⟨hlaunched, hrunning, hhanded⟩, fun now => ⟨sound.summary_eq_ofTable done now, ?_⟩,
      fun slot hslot => ?_⟩
    · rw [sound.summary_eq_ofTable done, RunSummary.results_ofTable]
    obtain ⟨⟨_, result⟩, hmem, rfl⟩ :=
      List.mem_map.1 ((sound.handedIn_perm_launchedIn done).mem_iff.2 hslot)
    refine ⟨result, mem_handedIn.1 hmem, ?_⟩
    rw [sound.kept.results, acceptedIn_eq_handedIn (sound.quiet done)]
    exact sound.flow.lookup_of_mem hmem

/-- Two cases at once; the second fails before the first ends, and the third is not launched. -/
def secondFails : List PoolEvent :=
  [.launch first, .launch second, .pause] ++ wayOf 3 second ++
    [.notice true, .pause, .deaf, .pause] ++ wayOf 3 first ++ [.notice false, .pause]

theorem secondFails_in_bounds :
    ∃ p, (idle threeCases).run? ⟨2, true⟩ secondFails = some p ∧ p.ended = some .completed ∧
      p.inFlight ≤ 2 ∧ [first, second] <+: slotsOf threeCases ∧
      (p.launched = [] ∧ p.running = [] ∧ p.handed = []) ∧
      ∀ now, (p.summary now).suites.flatMap SuiteSummary.results =
        [verdict 3 first, verdict 3 second] := by
  have run : (idle threeCases).run? ⟨2, true⟩ secondFails = some _ := rfl
  obtain ⟨⟨-, hbound⟩, ⟨hbeginning, -⟩, -, hended⟩ := launching_in_bounds run
  obtain ⟨hnothing, hsummary, -⟩ := hended rfl
  exact ⟨_, run, rfl, hbound, hbeginning, hnothing, fun now => (hsummary now).2⟩

/-- **With fail-fast, exactly the first cases are launched.**  No run goes on forever, and one
without an interrupt can always go on until it is completed.  It has then launched the first cases
in the order of their declaration: as many as the limit allows beyond the number of notices that
were taken before the first one of a failure.  All of them have run to their end, and the summary
has exactly their results.  With a limit of one these are the cases up to the first that fails. -/
theorem failFast_launches_exactly {concurrency : Nat} {outcome : Slot → CaseResult}
    (run : (idle suites).run? ⟨concurrency, true⟩ history = some p) (obeys : Obeys outcome history)
    (quiet : .interrupt ∉ history) :
    history.length ≤ 6 * (slotsOf suites).length + 3 ∧
    (p.ended = some .completed ∨ p.Moves ⟨concurrency, true⟩ outcome) ∧
    (p.ended = some .completed →
      launchedIn history =
        (slotsOf suites).take (beforeFailure outcome (receivedIn history) + max 1 concurrency) ∧
      (launchedIn history).length =
        min (slotsOf suites).length
          (beforeFailure outcome (receivedIn history) + max 1 concurrency) ∧
      (receivedIn history).Perm (launchedIn history) ∧
      (∀ now, p.summary now = RunSummary.ofTable suites (p.startTimes now)
          (fun slot => if slot ∈ launchedIn history then some (outcome slot) else none) false ∧
        (p.summary now).suites.flatMap SuiteSummary.results = (launchedIn history).map outcome) ∧
      (concurrency ≤ 1 →
        launchedIn history =
          (slotsOf suites).take (beforeFailure outcome (slotsOf suites) + 1))) := by
  have sound := sound_of_run run
  refine ⟨length_le run, sound.completed_or_moves outcome quiet, fun done => ?_⟩
  have hlength := launched_of_completed run rfl done obeys
  have htake := sound.launchedIn_eq_take hlength
  refine ⟨htake, hlength, sound.receivedIn_perm_launchedIn done,
    fun now => ⟨?_, sound.results_eq done obeys now⟩, fun hone => ?_⟩
  · rw [sound.summary_eq_ofTable done]
    exact RunSummary.ofTable_congr _ (fun slot _ => sound.resultAt_eq done obeys slot) _
  · have hlimit : PoolSettings.limit ⟨concurrency, true⟩ = 1 := Nat.max_eq_left hone
    obtain ⟨hlaunched, hrunning, hhanded, -⟩ := sound.nothing_left done
    have hline : launchedIn history = receivedIn history := by
      rw [inLine_of_run hlimit run quiet, hlaunched, hrunning, hhanded, sound.receivedIn_eq done]
      simp
    rw [hlimit, ← hline] at htake
    rw [← beforeFailure_take_succ htake]
    exact htake

theorem secondFails_launches_two :
    ∃ p, (idle threeCases).run? ⟨2, true⟩ secondFails = some p ∧ p.ended = some .completed ∧
      launchedIn secondFails = (slotsOf threeCases).take (0 + 2) ∧
      ∀ now, (p.summary now).suites.flatMap SuiteSummary.results =
        [verdict 3 first, verdict 3 second] := by
  have run : (idle threeCases).run? ⟨2, true⟩ secondFails = some _ := rfl
  have obeys : Obeys (verdict 3) secondFails := by decide
  obtain ⟨-, -, hended⟩ := failFast_launches_exactly run obeys (by decide)
  obtain ⟨hlaunched, -, -, hresults, -⟩ := hended rfl
  exact ⟨_, run, rfl, hlaunched, fun now => (hresults now).2⟩

end Pool
end SuiteRunner
