import SuiteRunner.Execution.Pool

/-!
# Histories of a pool

A history is the list of the events that have taken place.  It says which cases were launched, which
have handed in a result, which have left a notice and which notices were taken, each in the order of
time.

* `launchedIn`, `handedIn`, `leftIn`, `noticesIn`, `droppedIn`, `receivedIn` and `acceptedIn`, what
  a history tells;
* `Obeys`, every result in a history is the one that an outcome assigns to its case;
* **`Pool.run_induction`**: what holds at the beginning and is kept by each event holds after every
  history;
* **`Pool.length_add_rank_le`**: no history is longer than the rank of the pool in which it begins.
-/

namespace SuiteRunner

/-! ### What a history tells -/

/-- The cases that were launched. -/
def launchedIn (history : List PoolEvent) : List Slot :=
  history.filterMap fun
    | .launch slot => some slot
    | _ => none

/-- The results that were handed to the sink, with their cases. -/
def handedIn (history : List PoolEvent) : List (Slot × CaseResult) :=
  history.filterMap fun
    | .hands slot result => some (slot, result)
    | _ => none

/-- The cases that have left their notices, each with whether it has failed. -/
def leftIn (history : List PoolEvent) : List (Slot × Bool) :=
  history.filterMap fun
    | .leaves slot failed => some (slot, failed)
    | _ => none

/-- The notices that the loop has taken. -/
def noticesIn (history : List PoolEvent) : List Bool :=
  history.filterMap fun
    | .notice failed => some failed
    | _ => none

/-- The cases that were dropped. -/
def droppedIn (history : List PoolEvent) : List Slot :=
  history.filterMap fun
    | .drop slot => some slot
    | _ => none

/-- The cases whose notices the loop has taken, in that order: notices are taken in the order in
which they are left. -/
def receivedIn (history : List PoolEvent) : List Slot :=
  ((leftIn history).map Prod.fst).take (noticesIn history).length

/-- The results that were handed to the sink before it was closed. -/
def acceptedIn : List PoolEvent → List (Slot × CaseResult)
  | [] => []
  | .interrupt :: _ => []
  | e :: history => handedIn [e] ++ acceptedIn history

/-- The result of every case is the one that the outcome assigns to it. -/
def Obeys (outcome : Slot → CaseResult) (history : List PoolEvent) : Prop :=
  ∀ slot result, .hands slot result ∈ history → result = outcome slot

/-- Holds for what comes from the outside. -/
def PoolEvent.isSignal : PoolEvent → Bool
  | interrupt | deaf => true
  | _ => false

section Append

variable (history later : List PoolEvent)

@[simp] theorem launchedIn_append :
    launchedIn (history ++ later) = launchedIn history ++ launchedIn later :=
  List.filterMap_append

@[simp] theorem handedIn_append :
    handedIn (history ++ later) = handedIn history ++ handedIn later :=
  List.filterMap_append

@[simp] theorem leftIn_append : leftIn (history ++ later) = leftIn history ++ leftIn later :=
  List.filterMap_append

@[simp] theorem noticesIn_append :
    noticesIn (history ++ later) = noticesIn history ++ noticesIn later :=
  List.filterMap_append

@[simp] theorem droppedIn_append :
    droppedIn (history ++ later) = droppedIn history ++ droppedIn later :=
  List.filterMap_append

end Append

theorem mem_handedIn {history : List PoolEvent} {slot : Slot} {result : CaseResult} :
    (slot, result) ∈ handedIn history ↔ .hands slot result ∈ history := by
  rw [handedIn, List.mem_filterMap]
  constructor
  · rintro ⟨e, he, h⟩
    cases e <;> cases h
    exact he
  · exact fun h => ⟨_, h, rfl⟩

/-- Whether a history obeys an outcome can be read off what was handed in. -/
instance (outcome : Slot → CaseResult) (history : List PoolEvent) :
    Decidable (Obeys outcome history) :=
  decidable_of_iff (∀ x ∈ handedIn history, x.2 = outcome x.1)
    ⟨fun h slot result hr => h (slot, result) (mem_handedIn.2 hr),
      fun h x hx => h x.1 x.2 (mem_handedIn.1 hx)⟩

theorem mem_launchedIn {history : List PoolEvent} {slot : Slot} :
    slot ∈ launchedIn history ↔ .launch slot ∈ history := by
  rw [launchedIn, List.mem_filterMap]
  constructor
  · rintro ⟨e, he, h⟩
    cases e <;> cases h
    exact he
  · exact fun h => ⟨_, h, rfl⟩

theorem mem_droppedIn {history : List PoolEvent} {slot : Slot} :
    slot ∈ droppedIn history ↔ .drop slot ∈ history := by
  rw [droppedIn, List.mem_filterMap]
  constructor
  · rintro ⟨e, he, h⟩
    cases e <;> cases h
    exact he
  · exact fun h => ⟨_, h, rfl⟩

/-- Until the interrupt, every result that is handed in is accepted. -/
theorem acceptedIn_append (history later : List PoolEvent) (quiet : .interrupt ∉ history) :
    acceptedIn (history ++ later) = handedIn history ++ acceptedIn later := by
  induction history with
  | nil => rfl
  | cons e history ih =>
    simp only [List.mem_cons, not_or] at quiet
    have cons : acceptedIn (e :: (history ++ later)) =
        handedIn [e] ++ acceptedIn (history ++ later) := by
      cases e <;> first | rfl | exact absurd rfl quiet.1
    rw [List.cons_append, cons, ih quiet.2, ← List.append_assoc, ← handedIn_append,
      List.singleton_append]

theorem acceptedIn_eq_handedIn {history : List PoolEvent} (quiet : .interrupt ∉ history) :
    acceptedIn history = handedIn history := by
  have h := acceptedIn_append history [] quiet
  rwa [List.append_nil, acceptedIn, List.append_nil] at h

/-- After the interrupt, nothing more is accepted. -/
theorem acceptedIn_append_of_interrupt {history : List PoolEvent} (later : List PoolEvent)
    (stopped : .interrupt ∈ history) : acceptedIn (history ++ later) = acceptedIn history := by
  obtain ⟨before, after, rfl, quiet⟩ := List.eq_append_cons_of_mem stopped
  rw [List.append_assoc, List.cons_append, acceptedIn_append _ _ quiet, acceptedIn_append _ _ quiet]
  rfl

namespace Obeys

variable {outcome : Slot → CaseResult} {history later : List PoolEvent}

theorem of_append (h : Obeys outcome (history ++ later)) :
    Obeys outcome history ∧ Obeys outcome later :=
  ⟨fun slot r hr => h slot r (List.mem_append_left _ hr),
    fun slot r hr => h slot r (List.mem_append_right _ hr)⟩

/-- What was handed in is known from the cases. -/
theorem handedIn_eq (h : Obeys outcome history) :
    handedIn history = ((handedIn history).map Prod.fst).map fun slot => (slot, outcome slot) := by
  rw [List.map_map]
  refine (List.map_id _).symm.trans (List.map_congr_left ?_)
  rintro ⟨slot, r⟩ hr
  simp [h slot r (mem_handedIn.1 hr)]

/-- The result that a case has handed in, if it has. -/
theorem lookup_handedIn (h : Obeys outcome history) (slot : Slot) :
    (handedIn history).lookup slot =
      if slot ∈ (handedIn history).map Prod.fst then some (outcome slot) else none := by
  rw [h.handedIn_eq]
  generalize (handedIn history).map Prod.fst = slots
  rw [List.map_map, Function.comp_def, List.map_id']
  induction slots with
  | nil => rfl
  | cons s slots ih =>
    rw [List.map_cons, List.lookup_cons, ih]
    by_cases hs : slot = s
    · simp [hs]
    · simp [hs, beq_eq_false_iff_ne.2 hs]

end Obeys

/-! ### Runs -/

namespace Pool

variable {settings : PoolSettings}

section Allows

variable {p : Pool} {slot : Slot}

theorem allows_launch : p.allows settings (.launch slot) = true ↔
    p.loop = .filling ∧ p.hasRoom settings = true ∧ ∃ rest, p.queue = slot :: rest := by
  simp [allows, List.head?_eq_some_iff, and_assoc]

theorem allows_pause : p.allows settings .pause = true ↔
    p.loop = .filling ∧ (p.hasRoom settings = true → p.queue = []) := by
  cases h : p.hasRoom settings <;> simp [allows, h]

theorem allows_notice {failed : Bool} : p.allows settings (.notice failed) = true ↔
    p.loop = .waiting ∧ ∃ rest, p.notices = failed :: rest := by
  simp [allows, List.head?_eq_some_iff]

theorem allows_interrupt : p.allows settings .interrupt = true ↔
    p.loop = .waiting ∧ p.listening = true := by
  simp [allows]

theorem allows_deaf : p.allows settings .deaf = true ↔ p.loop = .waiting ∧ p.listening = true := by
  simp [allows]

theorem allows_join : p.allows settings .join = true ↔
    p.loop = .joining ∧ p.launched = [] ∧ p.running = [] ∧ p.handed = [] := by
  simp [allows, and_assoc]

theorem allows_starts {now : Instant} :
    p.allows settings (.starts slot now) = true ↔ slot ∈ p.launched := by
  simp [allows]

theorem allows_hands {result : CaseResult} :
    p.allows settings (.hands slot result) = true ↔ slot ∈ p.running := by
  simp [allows]

theorem allows_leaves {failed : Bool} :
    p.allows settings (.leaves slot failed) = true ↔ (slot, failed) ∈ p.handed := by
  simp [allows]

theorem allows_drop : p.allows settings (.drop slot) = true ↔
    p.loop = .joining ∧ (slot ∈ p.launched ∨ slot ∈ p.running) := by
  simp [allows]

end Allows

theorem step?_eq_some {p q : Pool} {e : PoolEvent} :
    p.step? settings e = some q ↔ p.allows settings e = true ∧ p.apply settings e = q := by
  rw [step?]
  split
  · rename_i h
    simp [h]
  · rename_i h
    simp [h]

theorem run?_cons {p q : Pool} {e : PoolEvent} {events : List PoolEvent} :
    p.run? settings (e :: events) = some q ↔
      p.allows settings e = true ∧ (p.apply settings e).run? settings events = some q := by
  rw [run?, Option.bind_eq_some_iff]
  constructor
  · rintro ⟨m, hm, hq⟩
    obtain ⟨allowed, rfl⟩ := step?_eq_some.1 hm
    exact ⟨allowed, hq⟩
  · rintro ⟨allowed, hq⟩
    exact ⟨_, step?_eq_some.2 ⟨allowed, rfl⟩, hq⟩

theorem run?_append {p q : Pool} {before after : List PoolEvent} :
    p.run? settings (before ++ after) = some q ↔
      ∃ m, p.run? settings before = some m ∧ m.run? settings after = some q := by
  induction before generalizing p with
  | nil => simp [run?]
  | cons e before ih =>
    simp only [List.cons_append, run?_cons, ih]
    constructor
    · rintro ⟨allowed, m, hm, hq⟩
      exact ⟨m, ⟨allowed, hm⟩, hq⟩
    · rintro ⟨m, ⟨allowed, hm⟩, hq⟩
      exact ⟨allowed, m, hm, hq⟩

/-- **Induction over a history.**  What holds at the beginning and is kept by each event holds after
every history. -/
theorem run_induction {motive : List PoolEvent → Pool → Prop} {p : Pool} (nil : motive [] p)
    (step : ∀ history p e, motive history p → p.allows settings e = true →
      motive (history ++ [e]) (p.apply settings e))
    {events : List PoolEvent} {q : Pool} (run : p.run? settings events = some q) :
    motive events q := by
  -- The events that are still to come are prolonged by those that have taken place.
  have general : ∀ (events history : List PoolEvent) (p : Pool), motive history p →
      p.run? settings events = some q →
      motive (history ++ events) q := by
    intro events
    induction events with
    | nil =>
      intro history p h hq
      cases hq
      rwa [List.append_nil]
    | cons e events ih =>
      intro history p h hq
      obtain ⟨allowed, hq⟩ := run?_cons.1 hq
      have h' := ih (history ++ [e]) (p.apply settings e) (step history p e h allowed) hq
      rwa [List.append_assoc] at h'
  exact general events [] p nil run

/-! ### The length of a history -/

theorem length_erase_succ {α : Type} [BEq α] [LawfulBEq α] {l : List α} {a : α} (h : a ∈ l) :
    (l.erase a).length + 1 = l.length := by
  rw [List.length_erase_of_mem h]
  have := List.length_pos_of_mem h
  omega

theorem rank_idle (suites : List Suite) : (idle suites).rank = 6 * (slotsOf suites).length + 3 := by
  simp [rank, idle, PoolLoop.rank]

/-- **Every event lowers the rank.** -/
theorem rank_apply_lt {p : Pool} {e : PoolEvent} (allowed : p.allows settings e = true) :
    (p.apply settings e).rank < p.rank := by
  cases e with
  | launch slot =>
    obtain ⟨hloop, -, rest, hqueue⟩ := allows_launch.1 allowed
    simp only [apply, rank, hqueue, List.tail_cons, List.length_append, List.length_cons,
      List.length_nil]
    omega
  | pause =>
    obtain ⟨hloop, -⟩ := allows_pause.1 allowed
    have hrank : (if p.inFlight = 0 then PoolLoop.finished .completed else .waiting).rank = 0 := by
      split <;> rfl
    have hfilling : PoolLoop.filling.rank = 1 := rfl
    simp only [apply, rank, hloop, hrank, hfilling]
    omega
  | notice failed =>
    obtain ⟨hloop, rest, hnotices⟩ := allows_notice.1 allowed
    simp only [apply, rank, hloop, hnotices, List.tail_cons, List.length_cons, PoolLoop.rank]
    omega
  | interrupt =>
    obtain ⟨hloop, hlistening⟩ := allows_interrupt.1 allowed
    simp [apply, rank, hloop, hlistening, PoolLoop.rank]
  | deaf =>
    obtain ⟨hloop, hlistening⟩ := allows_deaf.1 allowed
    simp [apply, rank, hloop, hlistening, PoolLoop.rank]
  | join =>
    obtain ⟨hloop, -⟩ := allows_join.1 allowed
    simp only [apply, rank, hloop, PoolLoop.rank]
    omega
  | starts slot now =>
    have h := length_erase_succ (allows_starts.1 allowed)
    simp only [apply, rank, List.length_append, List.length_singleton]
    omega
  | hands slot result =>
    have h := length_erase_succ (allows_hands.1 allowed)
    simp only [apply, rank, List.length_append, List.length_singleton]
    omega
  | leaves slot failed =>
    have h := length_erase_succ (allows_leaves.1 allowed)
    simp only [apply, rank, List.length_append, List.length_singleton]
    omega
  | drop slot =>
    obtain ⟨-, hslot⟩ := allows_drop.1 allowed
    have hlaunched : (p.launched.erase slot).length ≤ p.launched.length := List.length_erase_le
    have hrunning : (p.running.erase slot).length ≤ p.running.length := List.length_erase_le
    simp only [apply, rank]
    rcases hslot with h | h
    · have := length_erase_succ h
      omega
    · have := length_erase_succ h
      omega

theorem length_add_rank_le {p q : Pool} {events : List PoolEvent}
    (run : p.run? settings events = some q) :
    events.length + q.rank ≤ p.rank := by
  induction events generalizing p with
  | nil =>
    cases run
    simp
  | cons e events ih =>
    obtain ⟨allowed, run⟩ := run?_cons.1 run
    have hlt := rank_apply_lt allowed
    have hle := ih run
    rw [List.length_cons]
    omega

/-!
### Three cases

A suite of two cases and a suite of one, whose second case fails.  Short runs of them are shown
beside the statements.
-/

/-- Two suites with three cases. -/
def threeCases : List Suite :=
  [⟨"alpha", none, [], .none, [.plain "first" "m.py", .plain "second" "m.py"],
    "alpha.yaml", "default"⟩,
    ⟨"beta", none, [], .none, [.plain "third" "m.py"], "beta.yaml", "default"⟩]

def first : Slot := ⟨0, 0⟩
def second : Slot := ⟨0, 1⟩
def third : Slot := ⟨1, 0⟩

/-- The second case fails, and the others pass; all take the same time. -/
def verdict (durationMs : Nat) (slot : Slot) : CaseResult :=
  let status : Status := if slot = second then .fail else .pass
  { CaseResult.plain "alpha" "alpha" "case" status with durationMs := durationMs }

/-- What a case does after it was launched. -/
def wayOf (durationMs : Nat) (slot : Slot) : List PoolEvent :=
  [.starts slot .epoch, .hands slot (verdict durationMs slot),
    .leaves slot (verdict durationMs slot).status.isFailure]

end Pool
end SuiteRunner
