import SuiteRunner.Proofs.PoolProgress

/-!
# What a pool does by itself

Of all orders in which things can happen, `Pool.settle` takes one.  What it does is a history like
any other, so what holds after every history holds of a pool that reacts.

* **`Pool.settle_follows`**: a pool that settles takes events that it allows, as far as it can, and
  nothing comes from the outside;
* **`Pool.react_follows`**: a pool that reacts to an event has that event in its history, and
  settles;
* `Pool.turnsLeft` — how often a runner can still end or the run can still be interrupted.
-/

namespace SuiteRunner
namespace Pool

variable {settings : PoolSettings} {suites : List Suite} {history : List PoolEvent} {p q : Pool}

/-- Holds when nothing happens unless a runner ends or something comes from the outside. -/
def IsSettled (settings : PoolSettings) (p : Pool) : Prop :=
  p.launched = [] ∧ p.handed = [] ∧ p.loopNext? settings = none

/-- Holds for events that are not the end of a runner and do not come from the outside. -/
def AreOwn (events : List PoolEvent) : Prop :=
  handedIn events = [] ∧ ∀ e ∈ events, e.isSignal = false

/-! ### The next event -/

theorem allows_of_loopNext? {e : PoolEvent} (hlaunched : p.launched = []) (hhanded : p.handed = [])
    (h : p.loopNext? settings = some e) : p.allows settings e = true ∧ AreOwn [e] := by
  unfold loopNext? at h
  cases hloop : p.loop with
  | filling =>
    simp only [hloop] at h
    by_cases hroom : p.hasRoom settings = true
    · rw [if_pos hroom] at h
      cases hqueue : p.queue with
      | nil =>
        rw [hqueue] at h
        cases h
        exact ⟨allows_pause.2 ⟨hloop, fun _ => hqueue⟩, rfl, by simp [PoolEvent.isSignal]⟩
      | cons slot rest =>
        rw [hqueue] at h
        cases h
        exact ⟨allows_launch.2 ⟨hloop, hroom, rest, hqueue⟩, rfl, by simp [PoolEvent.isSignal]⟩
    · rw [if_neg hroom] at h
      cases h
      exact ⟨allows_pause.2 ⟨hloop, fun hr => absurd hr hroom⟩, rfl, by simp [PoolEvent.isSignal]⟩
  | waiting =>
    simp only [hloop] at h
    cases hnotices : p.notices with
    | nil =>
      rw [hnotices] at h
      cases h
    | cons failed rest =>
      rw [hnotices] at h
      cases h
      exact ⟨allows_notice.2 ⟨hloop, rest, hnotices⟩, rfl, by simp [PoolEvent.isSignal]⟩
  | joining =>
    simp only [hloop] at h
    cases hrunning : p.running with
    | nil =>
      rw [hrunning] at h
      cases h
      exact ⟨allows_join.2 ⟨hloop, hlaunched, hrunning, hhanded⟩, rfl, by simp [PoolEvent.isSignal]⟩
    | cons slot rest =>
      rw [hrunning] at h
      cases h
      exact ⟨allows_drop.2 ⟨hloop, .inr (by simp [hrunning])⟩, rfl, by simp [PoolEvent.isSignal]⟩
  | finished ending =>
    simp only [hloop] at h
    cases h

/-- **What happens next can happen.** -/
theorem allows_of_next? {e : PoolEvent} {now : Instant} (h : p.next? settings now = some e) :
    p.allows settings e = true ∧ AreOwn [e] := by
  unfold next? at h
  cases hlaunched : p.launched with
  | cons slot rest =>
    simp only [hlaunched] at h
    cases h
    by_cases hloop : p.loop = .joining
    · rw [if_pos hloop]
      exact ⟨allows_drop.2 ⟨hloop, .inl (by simp [hlaunched])⟩, rfl, by simp [PoolEvent.isSignal]⟩
    · rw [if_neg hloop]
      exact ⟨allows_starts.2 (by simp [hlaunched]), rfl, by simp [PoolEvent.isSignal]⟩
  | nil =>
    cases hhanded : p.handed with
    | cons x rest =>
      simp only [hlaunched, hhanded] at h
      cases h
      exact ⟨allows_leaves.2 (by simp [hhanded]), rfl, by simp [PoolEvent.isSignal]⟩
    | nil =>
      simp only [hlaunched, hhanded] at h
      exact allows_of_loopNext? hlaunched hhanded h

theorem isSettled_of_next? {now : Instant} (h : p.next? settings now = none) :
    p.IsSettled settings := by
  unfold next? at h
  cases hlaunched : p.launched with
  | cons slot rest =>
    simp only [hlaunched] at h
    cases h
  | nil =>
    cases hhanded : p.handed with
    | cons x rest =>
      simp only [hlaunched, hhanded] at h
      cases h
    | nil =>
      simp only [hlaunched, hhanded] at h
      exact ⟨hlaunched, hhanded, h⟩

/-! ### Settling -/

/-- A pool goes on through events that it allows, and stops only when it has taken as many as it was
told to, or can go on no further. -/
theorem goOn_follows (settings : PoolSettings) (now : Instant) (n : Nat) (p : Pool) :
    ∃ events, p.run? settings events = some (p.goOn settings now n) ∧ AreOwn events ∧
      (events.length = n ∨ (p.goOn settings now n).IsSettled settings) := by
  induction n generalizing p with
  | zero => exact ⟨[], rfl, ⟨rfl, by simp⟩, .inl rfl⟩
  | succ n ih =>
    cases hnext : p.next? settings now with
    | none =>
      have hstays : p.goOn settings now (n + 1) = p := by simp only [goOn, hnext]
      rw [hstays]
      exact ⟨[], rfl, ⟨rfl, by simp⟩, .inr (isSettled_of_next? hnext)⟩
    | some e =>
      have hgoes : p.goOn settings now (n + 1) = (p.apply settings e).goOn settings now n := by
        simp only [goOn, hnext]
      obtain ⟨allowed, hhanded, hown⟩ := allows_of_next? hnext
      obtain ⟨events, run, ⟨hlater, hsignals⟩, hlength⟩ := ih (p.apply settings e)
      rw [hgoes]
      refine ⟨e :: events, run?_cons.2 ⟨allowed, run⟩, ⟨?_, ?_⟩,
        hlength.imp_left fun h => by rw [List.length_cons, h]⟩
      · rw [← List.singleton_append, handedIn_append, hhanded, hlater]
        rfl
      · rw [← List.singleton_append]
        intro x hx
        rcases List.mem_append.1 hx with h | h
        · exact hown x h
        · exact hsignals x h

/-- **A pool that settles follows a history**, in which no runner ends and nothing comes from the
outside.  It goes on as far as it can. -/
theorem settle_follows (settings : PoolSettings) (now : Instant) (p : Pool) :
    ∃ events, p.run? settings events = some (p.settle settings now) ∧ AreOwn events ∧
      (p.settle settings now).IsSettled settings := by
  obtain ⟨events, run, own, hlength | settled⟩ := goOn_follows settings now p.rank p
  · -- A pool that has used up its rank can do nothing more.
    refine ⟨events, run, own, ?_⟩
    have hrank := length_add_rank_le run
    cases hnext : (p.goOn settings now p.rank).next? settings now with
    | none => exact isSettled_of_next? hnext
    | some e =>
      have hlt := rank_apply_lt (allows_of_next? hnext).1
      omega
  · exact ⟨events, run, own, settled⟩

/-- A pool that starts follows a history. -/
theorem start_follows (settings : PoolSettings) (suites : List Suite) (now : Instant) :
    ∃ events, (idle suites).run? settings events = some (start settings suites now) ∧
      AreOwn events ∧
      (start settings suites now).IsSettled settings :=
  settle_follows settings now (idle suites)

/-- **A pool that reacts follows a history**: the event to which it reacts, and what it then does by
itself. -/
theorem react_follows {e : PoolEvent} (allowed : p.allows settings e = true) (now : Instant) :
    ∃ events, p.run? settings (e :: events) = some (p.react settings e now) ∧ AreOwn events ∧
      (p.react settings e now).IsSettled settings := by
  have hreact : p.react settings e now = (p.apply settings e).settle settings now := by
    rw [react, step?_eq_some.2 ⟨allowed, rfl⟩]
    rfl
  obtain ⟨events, run, own, settled⟩ := settle_follows settings now (p.apply settings e)
  rw [hreact]
  exact ⟨events, run?_cons.2 ⟨allowed, run⟩, own, settled⟩

/-- What cannot happen changes nothing. -/
theorem react_of_not_allows {e : PoolEvent} (refused : p.allows settings e = false)
    (now : Instant) :
    p.react settings e now = p := by
  have hstep : p.step? settings e = none := if_neg (by simp [refused])
  rw [react, hstep]
  rfl

/-- **A settled pool has ended, or waits for a runner.** -/
theorem Sound.ended_or_waits (h : Sound settings suites history p)
    (settled : p.IsSettled settings) :
    p.ended.isSome = true ∨ p.loop = .waiting ∧ p.running ≠ [] := by
  obtain ⟨hlaunched, hhanded, hnext⟩ := settled
  unfold loopNext? at hnext
  cases hloop : p.loop with
  | filling =>
    simp only [hloop] at hnext
    split at hnext <;> cases hnext
  | waiting =>
    right
    refine ⟨rfl, fun hrunning => ?_⟩
    have hnotices : p.notices = [] := by
      simpa only [hloop, Option.map_eq_none_iff, List.head?_eq_none_iff] using hnext
    have hflight := h.flow.inFlight_eq
    rw [hlaunched, hrunning, hhanded, hnotices,
      h.stand.drops (h.stand.quiet_of_waiting hloop)] at hflight
    exact (h.stand.waits hloop).1 hflight
  | joining =>
    simp only [hloop] at hnext
    cases hnext
  | finished ending =>
    left
    rw [ended_eq_some.2 hloop]
    rfl

/-- A settled pool in which a case runs waits for it. -/
theorem Sound.waits_of_running (h : Sound settings suites history p)
    (settled : p.IsSettled settings)
    (hrunning : p.running ≠ []) : p.loop = .waiting := by
  rcases h.ended_or_waits settled with hended | hwaits
  · obtain ⟨ending, hending⟩ := Option.isSome_iff_exists.1 hended
    have hfinished := ended_eq_some.1 hending
    cases ending with
    | completed => exact absurd (h.nothing_left hending).2.1 hrunning
    | interrupted => exact absurd (h.stand.joins hfinished).2.1 hrunning
  · exact hwaits.1

/-- As long as nothing has come from the outside, the pool listens. -/
theorem listening_of_run (run : (idle suites).run? settings history = some p)
    (own : ∀ e ∈ history, e.isSignal = false) : p.listening = true := by
  refine run_induction
    (motive := fun history p => (∀ e ∈ history, e.isSignal = false) → p.listening = true)
    (fun _ => rfl) ?_ run own
  intro history p e ih allowed own
  have hlistening := ih fun x hx => own x (List.mem_append_left _ hx)
  have hevent : e.isSignal = false := own e (List.mem_append_right _ List.mem_cons_self)
  cases e with
  | interrupt => cases hevent
  | deaf => cases hevent
  | _ => exact hlistening

/-! ### How many turns are left -/

/-- How often a runner can still end or the run can still be interrupted. -/
def turnsLeft (p : Pool) : Nat :=
  p.queue.length + p.launched.length + p.running.length + p.listening.toNat

theorem turnsLeft_idle (suites : List Suite) :
    (idle suites).turnsLeft = (slotsOf suites).length + 1 := rfl

/-- No event adds turns, and the end of a runner and what comes from the outside use one up. -/
theorem turnsLeft_apply {e : PoolEvent} (allowed : p.allows settings e = true) :
    (p.apply settings e).turnsLeft + (handedIn [e]).length + e.isSignal.toNat ≤ p.turnsLeft := by
  cases e with
  | launch slot =>
    obtain ⟨-, -, rest, hqueue⟩ := allows_launch.1 allowed
    simp [turnsLeft, apply, handedIn, PoolEvent.isSignal, hqueue]
    omega
  | interrupt =>
    obtain ⟨-, hlistening⟩ := allows_interrupt.1 allowed
    simp [turnsLeft, apply, handedIn, PoolEvent.isSignal, hlistening]
  | deaf =>
    obtain ⟨-, hlistening⟩ := allows_deaf.1 allowed
    simp [turnsLeft, apply, handedIn, PoolEvent.isSignal, hlistening]
  | starts slot now =>
    have hslot := length_erase_succ (allows_starts.1 allowed)
    simp only [turnsLeft, apply, handedIn, PoolEvent.isSignal, List.filterMap_cons,
      List.filterMap_nil, List.length_nil, List.length_append,
      List.length_singleton, Bool.toNat_false]
    omega
  | hands slot result =>
    have hslot := length_erase_succ (allows_hands.1 allowed)
    simp only [turnsLeft, apply, handedIn, PoolEvent.isSignal, List.filterMap_cons,
      List.filterMap_nil, List.length_cons, List.length_nil, Bool.toNat_false]
    omega
  | drop slot =>
    have hlaunched : (p.launched.erase slot).length ≤ p.launched.length := List.length_erase_le
    have hrunning : (p.running.erase slot).length ≤ p.running.length := List.length_erase_le
    simp only [turnsLeft, apply, handedIn, PoolEvent.isSignal, List.filterMap_cons,
      List.filterMap_nil, List.length_nil, Bool.toNat_false]
    omega
  | _ => exact Nat.le_refl _

theorem turnsLeft_run {events : List PoolEvent} (run : p.run? settings events = some q) :
    q.turnsLeft ≤ p.turnsLeft := by
  induction events generalizing p with
  | nil =>
    cases run
    exact Nat.le_refl _
  | cons e events ih =>
    obtain ⟨allowed, run⟩ := run?_cons.1 run
    have hevent := turnsLeft_apply allowed
    have hlater := ih run
    omega

end Pool
end SuiteRunner
