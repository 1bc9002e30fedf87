import SuiteRunner.Proofs.PoolHistory
import SuiteRunner.Proofs.SinkTable

/-!
# What holds in a pool at all times

The parts of a pool are changed by different parties: the loop has the queue, its count and its
place, the cases go from list to list, and the sink hears of both.  The history joins them.

* `Pool.Flow` — every case that was launched is in exactly one place on its way, and the counts of
  the loop are right;
* `Pool.Stand` — where the loop stands, and what is known there;
* `Pool.Kept` — the table of the sink is what was handed in before the sink was closed;
* **`Pool.sound_of_run`**: all of this holds after every history.
-/

namespace SuiteRunner

/-! ### Lists -/

theorem count_erase_add {α : Type} [BEq α] [LawfulBEq α] {l : List α} {a : α} (h : a ∈ l) (x : α) :
    (l.erase a).count x + [a].count x = l.count x := by
  have hperm := (List.perm_cons_erase h).count_eq x
  rw [← List.singleton_append, List.count_append] at hperm
  omega

/-- There is nothing to look up for a key that does not occur. -/
theorem lookup_eq_none_of_notMem {α β : Type} [BEq α] [LawfulBEq α] {l : List (α × β)} {a : α}
    (h : a ∉ l.map Prod.fst) : l.lookup a = none := by
  rw [List.lookup_eq_none_iff]
  rintro ⟨b, v⟩ hb
  rw [bne_iff_ne]
  rintro rfl
  exact h (List.mem_map_of_mem hb)

namespace Pool

variable {settings : PoolSettings} {suites : List Suite} {history : List PoolEvent}
  {p : Pool} {e : PoolEvent}

/-! ### The cases on their way -/

/-- **Every case is in one place.**  What was launched is a beginning of the declared cases; each
launched case has not started, runs, has handed in its result, or was dropped; each result that was
handed in has left its notice or owes it; the notices are taken in their order; and the count of the
loop is the number of launched cases without a taken notice. -/
structure Flow (settings : PoolSettings) (suites : List Suite) (history : List PoolEvent)
    (p : Pool) : Prop where
  order : launchedIn history ++ p.queue = slotsOf suites
  onWay : (launchedIn history).Perm
    (p.launched ++ p.running ++ (handedIn history).map Prod.fst ++ droppedIn history)
  owed : ((handedIn history).map fun x => (x.1, x.2.status.isFailure)).Perm
    (leftIn history ++ p.handed)
  sent : (leftIn history).map Prod.snd = noticesIn history ++ p.notices
  counted : (launchedIn history).length = (noticesIn history).length + p.inFlight
  bounded : p.inFlight ≤ settings.limit
  stopped : p.stopping = (settings.failFast && (noticesIn history).contains true)

theorem flow_idle : Flow settings suites [] (idle suites) where
  order := rfl
  onWay := List.Perm.refl _
  owed := List.Perm.refl _
  sent := rfl
  counted := rfl
  bounded := Nat.zero_le _
  stopped := by simp [idle, noticesIn]

namespace Flow

theorem nodup_launchedIn (h : Flow settings suites history p) : (launchedIn history).Nodup := by
  have hslots := nodup_slotsOf suites
  rw [← h.order] at hslots
  exact (List.nodup_append.1 hslots).1

theorem declared (h : Flow settings suites history p) {slot : Slot}
    (hslot : slot ∈ launchedIn history) :
    slot ∈ slotsOf suites := by
  rw [← h.order]
  exact List.mem_append_left _ hslot

/-- The cases that have handed in a result are those that have left their notices and those that owe
them. -/
theorem handedIn_perm (h : Flow settings suites history p) :
    ((handedIn history).map Prod.fst).Perm
      ((leftIn history).map Prod.fst ++ p.handed.map Prod.fst) := by
  have howed := h.owed.map Prod.fst
  rwa [List.map_map, List.map_append] at howed

/-- Everything on its way is counted. -/
theorem inFlight_eq (h : Flow settings suites history p) :
    p.inFlight = p.launched.length + p.running.length + p.handed.length + p.notices.length +
      (droppedIn history).length := by
  have hway := h.onWay.length_eq
  have howed := h.owed.length_eq
  have hsent := congrArg List.length h.sent
  have hcounted := h.counted
  simp only [List.length_append, List.length_map] at hway howed hsent
  omega

/-- No case is in two places. -/
theorem count_le_one (h : Flow settings suites history p) (slot : Slot) :
    p.launched.count slot + p.running.count slot + ((handedIn history).map Prod.fst).count slot +
      (droppedIn history).count slot ≤ 1 := by
  have hone := List.nodup_iff_count_le_one.1 h.nodup_launchedIn slot
  rw [h.onWay.count_eq slot] at hone
  simpa only [List.count_append] using hone

theorem declared_of_running (h : Flow settings suites history p) {slot : Slot}
    (hslot : slot ∈ p.running) : slot ∈ slotsOf suites := by
  refine h.declared ?_
  rw [h.onWay.mem_iff]
  simp [hslot]

/-- A case that runs has not handed in a result yet. -/
theorem notMem_handedIn (h : Flow settings suites history p) {slot : Slot}
    (hslot : slot ∈ p.running) : slot ∉ (handedIn history).map Prod.fst := by
  have hone := h.count_le_one slot
  have hpos := List.count_pos_iff.2 hslot
  exact List.count_eq_zero.1 (by omega)

/-- No case hands in a result twice. -/
theorem nodup_handedIn (h : Flow settings suites history p) :
    ((handedIn history).map Prod.fst).Nodup := by
  rw [List.nodup_iff_count_le_one]
  intro slot
  have hone := h.count_le_one slot
  omega

theorem lookup_of_mem (h : Flow settings suites history p) {slot : Slot} {result : CaseResult}
    (hmem : (slot, result) ∈ handedIn history) : (handedIn history).lookup slot = some result := by
  obtain ⟨before, after, hsplit⟩ := List.append_of_mem hmem
  have hnodup := h.nodup_handedIn
  rw [hsplit, List.map_append, List.map_cons, List.nodup_append] at hnodup
  have hbefore : before.lookup slot = none :=
    lookup_eq_none_of_notMem fun hslot => hnodup.2.2 _ hslot _ List.mem_cons_self rfl
  rw [hsplit, List.lookup_append, hbefore, List.lookup_cons_self]
  rfl

theorem order_apply (h : Flow settings suites history p) (allowed : p.allows settings e = true) :
    launchedIn (history ++ [e]) ++ (p.apply settings e).queue = slotsOf suites := by
  rw [launchedIn_append, ← h.order]
  cases e with
  | launch slot =>
    obtain ⟨-, -, rest, hqueue⟩ := allows_launch.1 allowed
    simp [launchedIn, Pool.apply, hqueue]
  | _ => simp [launchedIn, Pool.apply]

theorem onWay_apply (h : Flow settings suites history p) (allowed : p.allows settings e = true) :
    (launchedIn (history ++ [e])).Perm
      ((p.apply settings e).launched ++ (p.apply settings e).running ++
        (handedIn (history ++ [e])).map Prod.fst ++
        droppedIn (history ++ [e])) := by
  rw [List.perm_iff_count]
  intro x
  have hx := h.onWay.count_eq x
  rw [launchedIn_append, handedIn_append, droppedIn_append]
  simp only [List.map_append, List.count_append] at hx ⊢
  cases e with
  | launch slot =>
    simp [launchedIn, handedIn, droppedIn, Pool.apply, List.count_append] at hx ⊢
    omega
  | starts slot now =>
    have hslot := count_erase_add (allows_starts.1 allowed) x
    simp [launchedIn, handedIn, droppedIn, Pool.apply, List.count_append] at hx hslot ⊢
    omega
  | hands slot result =>
    have hslot := count_erase_add (allows_hands.1 allowed) x
    simp [launchedIn, handedIn, droppedIn, Pool.apply] at hx hslot ⊢
    omega
  | drop slot =>
    have hone := h.count_le_one slot
    simp [launchedIn, handedIn, droppedIn, Pool.apply] at hx ⊢
    rcases (allows_drop.1 allowed).2 with hslot | hslot
    · have hpos := List.count_pos_iff.2 hslot
      have hrunning : slot ∉ p.running := List.count_eq_zero.1 (by omega)
      have hmoved := count_erase_add hslot x
      rw [List.erase_of_not_mem hrunning]
      omega
    · have hpos := List.count_pos_iff.2 hslot
      have hlaunched : slot ∉ p.launched := List.count_eq_zero.1 (by omega)
      have hmoved := count_erase_add hslot x
      rw [List.erase_of_not_mem hlaunched]
      omega
  | _ => simpa [launchedIn, handedIn, droppedIn, Pool.apply] using hx

theorem owed_apply (h : Flow settings suites history p) (allowed : p.allows settings e = true) :
    ((handedIn (history ++ [e])).map fun x => (x.1, x.2.status.isFailure)).Perm
      (leftIn (history ++ [e]) ++ (p.apply settings e).handed) := by
  rw [List.perm_iff_count]
  intro x
  have hx := h.owed.count_eq x
  rw [handedIn_append, leftIn_append]
  simp only [List.map_append, List.count_append] at hx ⊢
  cases e with
  | hands slot result =>
    simp [handedIn, leftIn, Pool.apply] at hx ⊢
    omega
  | leaves slot failed =>
    have hslot := count_erase_add (allows_leaves.1 allowed) x
    simp [handedIn, leftIn, Pool.apply] at hx hslot ⊢
    omega
  | _ => simpa [handedIn, leftIn, Pool.apply] using hx

theorem sent_apply (h : Flow settings suites history p) (allowed : p.allows settings e = true) :
    (leftIn (history ++ [e])).map Prod.snd =
      noticesIn (history ++ [e]) ++ (p.apply settings e).notices := by
  rw [leftIn_append, noticesIn_append, List.map_append, h.sent]
  cases e with
  | notice failed =>
    obtain ⟨-, rest, hnotices⟩ := allows_notice.1 allowed
    simp [leftIn, noticesIn, Pool.apply, hnotices]
  | _ => simp [leftIn, noticesIn, Pool.apply]

theorem counted_apply (h : Flow settings suites history p) (allowed : p.allows settings e = true) :
    (launchedIn (history ++ [e])).length =
      (noticesIn (history ++ [e])).length + (p.apply settings e).inFlight := by
  have hcounted := h.counted
  rw [launchedIn_append, noticesIn_append, List.length_append, List.length_append]
  cases e with
  | launch slot =>
    simp only [launchedIn, noticesIn, Pool.apply, List.filterMap_cons, List.filterMap_nil,
      List.length_cons, List.length_nil] at hcounted ⊢
    omega
  | notice failed =>
    -- A notice that can be taken is counted.
    obtain ⟨-, rest, hnotices⟩ := allows_notice.1 allowed
    have hflight := h.inFlight_eq
    rw [hnotices, List.length_cons] at hflight
    simp only [launchedIn, noticesIn, Pool.apply, List.filterMap_cons, List.filterMap_nil,
      List.length_cons, List.length_nil] at hcounted ⊢
    omega
  | _ => simpa [launchedIn, noticesIn, Pool.apply] using hcounted

theorem bounded_apply (h : Flow settings suites history p) (allowed : p.allows settings e = true) :
    (p.apply settings e).inFlight ≤ settings.limit := by
  cases e with
  | launch slot =>
    obtain ⟨-, hroom, -⟩ := allows_launch.1 allowed
    simp only [hasRoom, Bool.and_eq_true, decide_eq_true_eq] at hroom
    exact hroom.1
  | notice failed => exact Nat.le_trans (Nat.sub_le _ _) h.bounded
  | _ => exact h.bounded

theorem stopped_apply (h : Flow settings suites history p) :
    (p.apply settings e).stopping =
      (settings.failFast && (noticesIn (history ++ [e])).contains true) := by
  rw [noticesIn_append]
  cases e with
  | notice failed =>
    simp only [Pool.apply, h.stopped, noticesIn, List.filterMap_cons, List.filterMap_nil]
    cases failed <;> cases settings.failFast <;> simp
  | _ => simpa [Pool.apply, noticesIn] using h.stopped

/-- **Every event keeps the cases in their places.** -/
theorem apply (h : Flow settings suites history p) (allowed : p.allows settings e = true) :
    Flow settings suites (history ++ [e]) (p.apply settings e) where
  order := h.order_apply allowed
  onWay := h.onWay_apply allowed
  owed := h.owed_apply allowed
  sent := h.sent_apply allowed
  counted := h.counted_apply allowed
  bounded := h.bounded_apply allowed
  stopped := h.stopped_apply

end Flow

/-! ### Where the loop stands -/

/-- Holds when the loop has launched what it can. -/
def IsFull (settings : PoolSettings) (p : Pool) : Prop := p.hasRoom settings = true → p.queue = []

/-- **What is known where the loop stands.**  It waits only with something in flight and when
nothing can be launched; it is over when nothing is in flight, or after an interrupt when no
launched case is left; and cases are dropped only after an interrupt. -/
structure Stand (settings : PoolSettings) (history : List PoolEvent) (p : Pool) : Prop where
  cut : .interrupt ∈ history ↔ p.loop = .joining ∨ p.loop = .finished .interrupted
  waits : p.loop = .waiting → p.inFlight ≠ 0 ∧ p.IsFull settings
  completes : p.loop = .finished .completed → p.inFlight = 0 ∧ p.IsFull settings
  joins : p.loop = .finished .interrupted → p.launched = [] ∧ p.running = [] ∧ p.handed = []
  drops : .interrupt ∉ history → droppedIn history = []

theorem stand_idle : Stand settings [] (idle suites) where
  cut := by simp [idle]
  waits := by simp [idle]
  completes := by simp [idle]
  joins := by simp [idle]
  drops := fun _ => rfl

namespace Stand

theorem quiet_of_filling (h : Stand settings history p) (hloop : p.loop = .filling) :
    .interrupt ∉ history := by
  rw [h.cut, hloop]
  simp

theorem quiet_of_waiting (h : Stand settings history p) (hloop : p.loop = .waiting) :
    .interrupt ∉ history := by
  rw [h.cut, hloop]
  simp

theorem quiet_of_completed (h : Stand settings history p) (hloop : p.loop = .finished .completed) :
    .interrupt ∉ history := by
  rw [h.cut, hloop]
  simp

/-- What a case does on its way does not move the loop. -/
theorem of_case (h : Stand settings history p) {q : Pool} (hevent : .interrupt ∉ [e])
    (hloop : q.loop = p.loop) (hflight : q.inFlight = p.inFlight)
    (hfull : p.IsFull settings → q.IsFull settings)
    (hleft : p.loop ≠ .finished .interrupted)
    (hdropped : .interrupt ∉ history → droppedIn [e] = []) :
    Stand settings (history ++ [e]) q := by
  have hmem : .interrupt ∈ history ++ [e] ↔ .interrupt ∈ history := by
    rw [List.mem_append, or_iff_left hevent]
  constructor
  · rw [hmem, hloop]
    exact h.cut
  · rw [hloop, hflight]
    exact fun hwaits => (h.waits hwaits).imp_right hfull
  · rw [hloop, hflight]
    exact fun hfinished => (h.completes hfinished).imp_right hfull
  · rw [hloop]
    exact fun hfinished => absurd hfinished hleft
  · rw [hmem, droppedIn_append]
    exact fun hquiet => by rw [h.drops hquiet, hdropped hquiet]; rfl

/-- The loop goes back to launching cases. -/
theorem of_filling (h : Stand settings history p) {q : Pool} (hquiet : .interrupt ∉ history)
    (hevent : .interrupt ∉ [e]) (hloop : q.loop = .filling) (hdropped : droppedIn [e] = []) :
    Stand settings (history ++ [e]) q := by
  have hmem : .interrupt ∉ history ++ [e] := by
    rw [List.mem_append]
    exact not_or.2 ⟨hquiet, hevent⟩
  constructor
  · simp [hmem, hloop]
  · simp [hloop]
  · simp [hloop]
  · simp [hloop]
  · rw [droppedIn_append, h.drops hquiet, hdropped]
    exact fun _ => rfl

/-- **Every event leaves the loop where it may stand.** -/
theorem apply (h : Stand settings history p) (allowed : p.allows settings e = true) :
    Stand settings (history ++ [e]) (p.apply settings e) := by
  cases e with
  | launch slot =>
    obtain ⟨hloop, -⟩ := allows_launch.1 allowed
    exact h.of_filling (h.quiet_of_filling hloop) (by simp) hloop rfl
  | notice failed =>
    obtain ⟨hloop, -⟩ := allows_notice.1 allowed
    exact h.of_filling (h.quiet_of_waiting hloop) (by simp) rfl rfl
  | deaf =>
    obtain ⟨hloop, -⟩ := allows_deaf.1 allowed
    exact h.of_filling (h.quiet_of_waiting hloop) (by simp) rfl rfl
  | pause =>
    obtain ⟨hloop, hfull⟩ := allows_pause.1 allowed
    have hquiet := h.quiet_of_filling hloop
    have hmem : .interrupt ∉ history ++ [.pause] := by simp [hquiet]
    by_cases hflight : p.inFlight = 0
    · have hfinished : (p.apply settings .pause).loop = .finished .completed := if_pos hflight
      constructor
      · simp [hmem, hfinished]
      · simp [hfinished]
      · exact fun _ => ⟨hflight, hfull⟩
      · simp [hfinished]
      · rw [droppedIn_append, h.drops hquiet]
        exact fun _ => rfl
    · have hwaiting : (p.apply settings .pause).loop = .waiting := if_neg hflight
      constructor
      · simp [hmem, hwaiting]
      · exact fun _ => ⟨hflight, hfull⟩
      · simp [hwaiting]
      · simp [hwaiting]
      · rw [droppedIn_append, h.drops hquiet]
        exact fun _ => rfl
  | interrupt =>
    have hmem : .interrupt ∈ history ++ [.interrupt] := by simp
    exact ⟨by simp [Pool.apply], by simp [Pool.apply], by simp [Pool.apply], by simp [Pool.apply],
      fun hquiet => absurd hmem hquiet⟩
  | join =>
    obtain ⟨hloop, hlaunched, hrunning, hhanded⟩ := allows_join.1 allowed
    have hmem : .interrupt ∈ history ++ [.join] := List.mem_append_left _ (h.cut.2 (.inl hloop))
    exact ⟨by simp [hmem, Pool.apply], by simp [Pool.apply], by simp [Pool.apply],
      fun _ => ⟨hlaunched, hrunning, hhanded⟩, fun hquiet => absurd hmem hquiet⟩
  | starts slot now =>
    have hslot := allows_starts.1 allowed
    refine h.of_case (by simp) rfl rfl id (fun hfinished => ?_) fun _ => rfl
    exact List.ne_nil_of_mem hslot (h.joins hfinished).1
  | hands slot result =>
    have hslot := allows_hands.1 allowed
    refine h.of_case (by simp) rfl rfl id (fun hfinished => ?_) fun _ => rfl
    exact List.ne_nil_of_mem hslot (h.joins hfinished).2.1
  | leaves slot failed =>
    have hslot := allows_leaves.1 allowed
    refine h.of_case (by simp) rfl rfl id (fun hfinished => ?_) fun _ => rfl
    exact List.ne_nil_of_mem hslot (h.joins hfinished).2.2
  | drop slot =>
    obtain ⟨hloop, -⟩ := allows_drop.1 allowed
    refine h.of_case (by simp) rfl rfl id (fun hfinished => ?_) fun hquiet => ?_
    · rw [hloop] at hfinished
      cases hfinished
    · exact absurd (h.cut.2 (.inl hloop)) hquiet

end Stand

/-! ### What the sink keeps -/

/-- **The table of the sink** is what was handed in before the interrupt, which closes the sink. -/
structure Kept (suites : List Suite) (history : List PoolEvent) (p : Pool) : Prop where
  fits : p.sink.Fits suites
  closed : p.sink.closed = true ↔ .interrupt ∈ history
  results : ∀ slot, p.sink.resultAt slot = (acceptedIn history).lookup slot

theorem kept_idle : Kept suites [] (idle suites) where
  fits := ResultSink.fits_ofSuites suites
  closed := by simp [idle, ResultSink.ofSuites]
  results := ResultSink.resultAt_ofSuites suites

namespace Kept

/-- An event that hands in nothing changes nothing in the table. -/
theorem of_sink (h : Kept suites history p) {q : Pool} (hfits : q.sink.Fits suites)
    (hclosed : q.sink.closed = true ↔ .interrupt ∈ history ++ [e])
    (hresults : ∀ slot, q.sink.resultAt slot = p.sink.resultAt slot)
    (hhanded : acceptedIn [e] = []) :
    Kept suites (history ++ [e]) q := by
  refine ⟨hfits, hclosed, fun slot => ?_⟩
  rw [hresults, h.results]
  by_cases hstopped : .interrupt ∈ history
  · rw [acceptedIn_append_of_interrupt _ hstopped]
  · rw [acceptedIn_append _ _ hstopped, hhanded, List.append_nil, acceptedIn_eq_handedIn hstopped]

/-- **A result that is handed in** is in the table if the sink is open.  Its case has a place, and has
not handed in a result before. -/
theorem resultAt_hands (h : Kept suites history p) (flow : Flow settings suites history p)
    {slot : Slot} (hslot : slot ∈ p.running) (result : CaseResult) (place : Slot) :
    (p.sink.forward slot result).resultAt place =
      (acceptedIn (history ++ [.hands slot result])).lookup place := by
  by_cases hstopped : .interrupt ∈ history
  · rw [acceptedIn_append_of_interrupt _ hstopped, ← h.results,
      ResultSink.forward_of_closed (h.closed.2 hstopped)]
  · have hopen : p.sink.closed = false := by
      rw [← Bool.not_eq_true, h.closed]
      exact hstopped
    rw [acceptedIn_append _ _ hstopped, List.lookup_append, ← acceptedIn_eq_handedIn hstopped,
      ← h.results, ResultSink.resultAt_forward h.fits hopen (flow.declared_of_running hslot)]
    by_cases hplace : place = slot
    · have hnone : p.sink.resultAt slot = none := by
        rw [h.results, acceptedIn_eq_handedIn hstopped]
        exact lookup_eq_none_of_notMem (flow.notMem_handedIn hslot)
      rw [if_pos hplace, hplace, hnone]
      simp [acceptedIn, handedIn]
    · rw [if_neg hplace]
      simp [acceptedIn, handedIn, List.lookup_cons, beq_eq_false_iff_ne.2 hplace]

/-- **Every event keeps the table right.** -/
theorem apply (h : Kept suites history p) (flow : Flow settings suites history p)
    (allowed : p.allows settings e = true) : Kept suites (history ++ [e]) (p.apply settings e) := by
  cases e with
  | starts slot now =>
    exact h.of_sink (h.fits.start slot.suite now) (by simpa [Pool.apply] using h.closed)
      (ResultSink.resultAt_start _ _ _) rfl
  | interrupt =>
    exact h.of_sink h.fits.close (by simp [Pool.apply]) (fun _ => rfl) rfl
  | hands slot result =>
    exact ⟨h.fits.forward slot result, by simpa [Pool.apply] using h.closed,
      h.resultAt_hands flow (allows_hands.1 allowed) result⟩
  | _ => exact h.of_sink h.fits (by simpa [Pool.apply] using h.closed) (fun _ => rfl) rfl

end Kept

/-! ### All together -/

/-- What holds in a pool at all times. -/
structure Sound (settings : PoolSettings) (suites : List Suite) (history : List PoolEvent)
    (p : Pool) : Prop where
  flow : Flow settings suites history p
  stand : Stand settings history p
  kept : Kept suites history p

theorem Sound.apply (h : Sound settings suites history p) (allowed : p.allows settings e = true) :
    Sound settings suites (history ++ [e]) (p.apply settings e) :=
  ⟨h.flow.apply allowed, h.stand.apply allowed, h.kept.apply h.flow allowed⟩

theorem sound_idle : Sound settings suites [] (idle suites) := ⟨flow_idle, stand_idle, kept_idle⟩

/-- **Whatever has happened, in whatever order, the pool is sound.** -/
theorem sound_of_run (run : (idle suites).run? settings history = some p) :
    Sound settings suites history p :=
  run_induction (motive := Sound settings suites) sound_idle
    (fun _ _ _ h allowed => h.apply allowed) run

/-- Induction over a history from the beginning; the pool is known to be sound at each event. -/
theorem sound_induction {motive : List PoolEvent → Pool → Prop} (nil : motive [] (idle suites))
    (step : ∀ history p e, Sound settings suites history p → motive history p →
      p.allows settings e = true → motive (history ++ [e]) (p.apply settings e))
    (run : (idle suites).run? settings history = some p) : motive history p := by
  refine (run_induction
    (motive := fun history p => Sound settings suites history p ∧ motive history p)
    ⟨sound_idle, nil⟩ ?_ run).2
  rintro history p e ⟨sound, h⟩ allowed
  exact ⟨sound.apply allowed, step history p e sound h allowed⟩

end Pool
end SuiteRunner
