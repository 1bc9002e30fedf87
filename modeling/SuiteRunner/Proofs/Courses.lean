import SuiteRunner.Execution.Course
import SuiteRunner.Execution.Rehearsal
import SuiteRunner.Proofs.PoolSettling

/-!
# Courses follow histories

A course and a rehearsal choose which runner ends next.  Whatever they choose, their pools have
taken events that they allow, so what holds after every history holds of them.

* **`Course.exists_history`**: the pool of a course is at the end of a history, in which every
  result comes from the runner;
* **`Course.run_ended`**: a course comes to its end;
* **`Rehearsal.exists_history`**: the pool of a rehearsal is at the end of a history.
-/

namespace SuiteRunner

/-! ### Courses -/

namespace Course

variable {c : Course} {s : State} {history : List PoolEvent}

/-- Holds for a result that the runner gives for the case of a slot, in some state of the files and
after some time. -/
def Gives (c : Course) (slot : Slot) (result : CaseResult) : Prop :=
  ∃ suite case files elapsedMs, c.case? slot = some (suite, case) ∧
    result = (c.runner.run c.machine files suite case elapsedMs).1

/-- What is known of the state of a course: its pool is settled at the end of a history, and the
results in the history are those of the runner. -/
structure Follows (c : Course) (s : State) (history : List PoolEvent) : Prop where
  run : (Pool.idle c.suites).run? c.settings history = some s.pool
  settled : s.pool.IsSettled c.settings
  gives : ∀ x ∈ handedIn history, c.Gives x.1 x.2
  heard : .deaf ∉ history

/-- Every declared slot has a case. -/
theorem exists_case? {slot : Slot} (declared : slot ∈ slotsOf c.suites) :
    ∃ suite case, c.case? slot = some (suite, case) := by
  obtain ⟨suite, hsuite, hcase⟩ := mem_slotsOf.1 declared
  refine ⟨suite, suite.cases[slot.case], ?_⟩
  simp [case?, hsuite, hcase]

theorem follows_opening (c : Course) (files : FileTree) :
    ∃ history, c.Follows (c.opening files) history := by
  obtain ⟨history, run, ⟨hhanded, hown⟩, settled⟩ :=
    Pool.start_follows c.settings c.suites (c.clock 0)
  refine ⟨history, run, settled, ?_, fun hdeaf => ?_⟩
  · rw [hhanded]
    intro x hx
    cases hx
  · cases hown _ hdeaf

/-- **A turn goes on with the history**, and uses a turn up. -/
theorem Follows.turn (h : c.Follows s history) {e : PoolEvent} {now : Instant} {t : State}
    (hpool : t.pool = s.pool.react c.settings e now) (allowed : s.pool.allows c.settings e = true)
    (gives : ∀ x ∈ handedIn [e], c.Gives x.1 x.2) (heard : e ≠ .deaf)
    (turn : 1 ≤ (handedIn [e]).length + e.isSignal.toNat) :
    ∃ later, c.Follows t (history ++ later) ∧ t.pool.turnsLeft < s.pool.turnsLeft := by
  obtain ⟨events, run, ⟨hhanded, hown⟩, settled⟩ := Pool.react_follows allowed now
  rw [← hpool] at run settled
  refine ⟨e :: events, ⟨Pool.run?_append.2 ⟨s.pool, h.run, run⟩, settled,
    fun x hx => ?_, fun hdeaf => ?_⟩, ?_⟩
  · rw [← List.singleton_append, handedIn_append, handedIn_append, hhanded, List.append_nil] at hx
    rcases List.mem_append.1 hx with hx | hx
    · exact h.gives x hx
    · exact gives x hx
  · rcases List.mem_append.1 hdeaf with hdeaf | hdeaf
    · exact h.heard hdeaf
    · rcases List.mem_cons.1 hdeaf with hdeaf | hdeaf
      · exact heard hdeaf.symm
      · cases hown _ hdeaf
  · obtain ⟨-, hlater⟩ := Pool.run?_cons.1 run
    have hturn := Pool.turnsLeft_apply allowed
    have hrest := Pool.turnsLeft_run hlater
    omega

theorem Follows.endSlot (h : c.Follows s history) {slot : Slot} (hslot : slot ∈ s.pool.running)
    (elapsedMs : Nat) : ∃ later, c.Follows (c.endSlot s slot elapsedMs) (history ++ later) ∧
      (c.endSlot s slot elapsedMs).pool.turnsLeft < s.pool.turnsLeft := by
  have declared := (Pool.sound_of_run h.run).flow.declared_of_running hslot
  obtain ⟨suite, case, hcase⟩ := exists_case? declared
  have hpool : (c.endSlot s slot elapsedMs).pool = s.pool.react c.settings
      (.hands slot (c.runner.run c.machine s.files suite case elapsedMs).1)
      (c.clock (s.turns + 1)) := by
    simp only [Course.endSlot, hcase]
  refine h.turn hpool (Pool.allows_hands.2 hslot) (fun x hx => ?_) (by simp) (Nat.le_refl 1)
  cases List.mem_singleton.1 hx
  exact ⟨suite, case, s.files, elapsedMs, hcase, rfl⟩

theorem Follows.interrupt (h : c.Follows s history) (hrunning : s.pool.running ≠ []) :
    ∃ later, c.Follows (c.interrupt s) (history ++ later) ∧
      (c.interrupt s).pool.turnsLeft < s.pool.turnsLeft := by
  have sound := Pool.sound_of_run h.run
  have hloop := sound.waits_of_running h.settled hrunning
  have own : ∀ e ∈ history, e.isSignal = false := by
    intro e he
    cases e with
    | interrupt => exact absurd he (sound.stand.quiet_of_waiting hloop)
    | deaf => exact absurd he h.heard
    | _ => rfl
  have hlistening := Pool.listening_of_run h.run own
  have allowed : s.pool.allows c.settings .interrupt = true :=
    Pool.allows_interrupt.2 ⟨hloop, hlistening⟩
  exact h.turn rfl allowed (fun x hx => by cases hx) (by simp) (Nat.le_refl 1)

/-- **A course takes turns until it has ended.** -/
theorem Follows.act (h : c.Follows s history) :
    ∃ later, c.Follows (c.act s) (history ++ later) ∧
      (s.pool.running = [] ∨ (c.act s).pool.turnsLeft < s.pool.turnsLeft) := by
  cases hrunning : s.pool.running with
  | nil =>
    have hact : c.act s = s := by simp only [Course.act, hrunning]
    rw [hact]
    exact ⟨[], by rwa [List.append_nil], .inl rfl⟩
  | cons first rest =>
    cases hturn : c.schedule s.turns ((first :: rest).map c.isSkipped) with
    | ends index elapsedMs =>
      have hact : c.act s = c.endSlot s ((first :: rest)[index]?.getD first) elapsedMs := by
        simp only [Course.act, hrunning, hturn]
      have hslot : (first :: rest)[index]?.getD first ∈ s.pool.running := by
        rw [hrunning]
        cases hindex : (first :: rest)[index]? with
        | none => exact List.mem_cons_self
        | some slot => exact List.mem_of_getElem? hindex
      obtain ⟨later, hfollows, hturns⟩ := h.endSlot hslot elapsedMs
      rw [hact]
      exact ⟨later, hfollows, .inr hturns⟩
    | interrupt =>
      have hact : c.act s = c.interrupt s := by simp only [Course.act, hrunning, hturn]
      obtain ⟨later, hfollows, hturns⟩ := h.interrupt (by simp [hrunning])
      rw [hact]
      exact ⟨later, hfollows, .inr hturns⟩

/-- A course that has ended stays where it is. -/
theorem after_of_nil (hrunning : s.pool.running = []) (n : Nat) : c.after s n = s := by
  have hact : c.act s = s := by simp only [Course.act, hrunning]
  induction n with
  | zero => rfl
  | succ n ih => rw [Course.after, hact, ih]

/-- The state after some turns: either the course has ended, or each of them has used a turn up. -/
theorem Follows.after (h : c.Follows s history) (n : Nat) :
    ∃ later, c.Follows (c.after s n) (history ++ later) ∧
      ((c.after s n).pool.running = [] ∨ (c.after s n).pool.turnsLeft + n ≤ s.pool.turnsLeft) := by
  induction n generalizing s history with
  | zero =>
    exact ⟨[], by rwa [List.append_nil], .inr (Nat.le_refl _)⟩
  | succ n ih =>
    obtain ⟨first, hact, hturns⟩ := h.act
    obtain ⟨rest, hafter, hlater⟩ := ih hact
    refine ⟨first ++ rest, by rwa [← List.append_assoc], ?_⟩
    show (c.after (c.act s) n).pool.running = [] ∨ _
    rcases hturns with hnone | hturns
    · have hstays := after_of_nil (c := c) hnone (n + 1)
      rw [Course.after] at hstays
      left
      rw [hstays]
      exact hnone
    · refine hlater.imp_right fun hleft => ?_
      show (c.after (c.act s) n).pool.turnsLeft + (n + 1) ≤ _
      omega

/-- **The pool of a course is at the end of a history**, whatever its schedule, and the results in
it are those of its runner. -/
theorem exists_history (c : Course) (files : FileTree) (n : Nat) :
    ∃ history, c.Follows (c.after (c.opening files) n) history := by
  obtain ⟨history, hopening⟩ := follows_opening c files
  obtain ⟨later, hafter, -⟩ := hopening.after n
  exact ⟨history ++ later, hafter⟩

/-- **A course comes to its end.** -/
theorem run_ended (c : Course) (files : FileTree) : (c.run files).pool.ended.isSome = true := by
  obtain ⟨history, hopening⟩ := follows_opening c files
  obtain ⟨later, hrun, hturns⟩ := hopening.after ((slotsOf c.suites).length + 1)
  have hstart := Pool.turnsLeft_run hopening.run
  rw [Pool.turnsLeft_idle] at hstart
  have hrunning : (c.run files).pool.running = [] := by
    rcases hturns with hnone | hleft
    · exact hnone
    · -- All turns are used up, so nothing runs.
      have hzero : (c.run files).pool.turnsLeft = 0 := by
        show (c.after _ _).pool.turnsLeft = 0
        omega
      rw [Pool.turnsLeft] at hzero
      exact List.length_eq_zero_iff.1 (by omega)
  rcases (Pool.sound_of_run hrun.run).ended_or_waits hrun.settled with hended | hwaits
  · exact hended
  · exact absurd hrunning hwaits.2

end Course

/-! ### Rehearsals -/

namespace Rehearsal

variable {r : Rehearsal} {s : Stage}

/-- The pool of a stage is at the end of a history. -/
def Follows (r : Rehearsal) (s : Stage) (history : List PoolEvent) : Prop :=
  (Pool.idle (r.suites.map (·.1))).run? r.settings history = some s.pool

theorem Follows.react {history : List PoolEvent} (h : r.Follows s history)
    (e : PoolEvent) {t : Stage} (hpool : t.pool = s.pool.react r.settings e .epoch) :
    ∃ later, r.Follows t (history ++ later) := by
  cases hallows : s.pool.allows r.settings e with
  | true =>
    obtain ⟨events, run, -⟩ := Pool.react_follows hallows .epoch
    rw [← hpool] at run
    exact ⟨e :: events, Pool.run?_append.2 ⟨s.pool, h, run⟩⟩
  | false =>
    rw [Pool.react_of_not_allows hallows] at hpool
    refine ⟨[], ?_⟩
    rw [List.append_nil, Follows, hpool]
    exact h

theorem follows_opening (r : Rehearsal) : ∃ history, r.Follows r.opening history := by
  obtain ⟨history, run, -⟩ := Pool.start_follows r.settings (r.suites.map (·.1)) .epoch
  have hstart :
      r.Follows ⟨Pool.start r.settings (r.suites.map (·.1)) .epoch, [], 0, false, 0⟩ history := run
  cases hdeaf : r.deaf with
  | true =>
    have hpool : r.opening.pool =
        (Pool.start r.settings (r.suites.map (·.1)) .epoch).react r.settings .deaf .epoch := by
      simp only [opening, hdeaf, if_true]
    obtain ⟨later, hfollows⟩ := hstart.react .deaf hpool
    exact ⟨history ++ later, hfollows⟩
  | false =>
    refine ⟨history, ?_⟩
    simp only [Follows, opening, hdeaf]
    exact run

theorem Follows.act {history : List PoolEvent} (h : r.Follows s history) :
    ∃ later, r.Follows (r.act s) (history ++ later) := by
  have stays : ∃ later, r.Follows s (history ++ later) := ⟨[], by rwa [List.append_nil]⟩
  unfold Rehearsal.act
  split
  · exact stays
  split
  · exact h.react .interrupt rfl
  split
  · exact stays
  · dsimp only
    split
    · exact h.react (.hands _ _) rfl
    · exact stays

/-- **The pool of a rehearsal is at the end of a history.** -/
theorem exists_history (r : Rehearsal) (n : Nat) :
    ∃ history, r.Follows (r.after r.opening n) history := by
  have general : ∀ (n : Nat) (s : Stage) (history : List PoolEvent), r.Follows s history →
      ∃ later, r.Follows (r.after s n) (history ++ later) := by
    intro n
    induction n with
    | zero => exact fun s history h => ⟨[], by rwa [List.append_nil]⟩
    | succ n ih =>
      intro s history h
      obtain ⟨first, hact⟩ := h.act
      obtain ⟨rest, hafter⟩ := ih _ _ hact
      exact ⟨first ++ rest, by rwa [← List.append_assoc]⟩
  obtain ⟨history, hopening⟩ := follows_opening r
  obtain ⟨later, hafter⟩ := general n _ _ hopening
  exact ⟨history ++ later, hafter⟩

end Rehearsal

end SuiteRunner
