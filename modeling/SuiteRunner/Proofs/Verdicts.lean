import SuiteRunner.Execution.Verdict

/-!
# The check that decides

The checks on a finished process are made in a fixed order, and the first one that fails says what
the result of the case is.

* `Text.contains_iff` — a text is found exactly if it is a part of the other one;
* `Trial`, a finished process with all that its case is judged by;
* `Trial.EndedWell`, `Trial.Compared` and `Trial.Agrees`, what the checks ask for;
* `Trial.Judged`, the result that goes with every check when it is the first one to fail;
* **`Trial.judged_iff`** — in every case there is one such result, and it is the one that is given;
* `Trial.Judged.timedOut_iff` and `Trial.Judged.details_iff`, what is said in one case only.
-/

namespace SuiteRunner

/-! ### Parts of a text -/

namespace Text

variable {p s : List Char}

/-- **A text is found exactly if it is a part of the other one.** -/
theorem contains_iff : contains s p = true ↔ p <:+: s := by
  rw [contains]
  induction s with
  | nil =>
    rw [splitAt?, List.infix_nil]
    by_cases hp : p = []
    · simp [hp]
    · simp [hp]
  | cons c s ih =>
    rw [splitAt?, List.infix_cons_iff]
    cases hfront : stripFront? p (c :: s) with
    | some rest =>
      have hstarts : p <+: c :: s := ⟨rest, (stripFront?_eq_some.1 hfront).symm⟩
      simp [hstarts]
    | none =>
      have hstarts : ¬ p <+: c :: s := by
        rintro ⟨rest, hrest⟩
        rw [stripFront?_eq_some.2 hrest.symm] at hfront
        cases hfront
      rw [Option.isSome_map, ih]
      simp [hstarts]

end Text

/-- Only the filtered mode asks for the filters. -/
theorem compareTexts_of_ne_filtered {mode : CompareMode} (h : mode ≠ .filtered)
    (filters filters' : FilterSet) (actual expected : List Char) :
    compareTexts mode filters actual expected = compareTexts mode filters' actual expected := by
  cases mode with
  | filtered => exact absurd rfl h
  | exact => rfl
  | sorted => rfl
  | none => rfl

/-! ### What the checks ask for -/

/-- A finished process, and all that its case is judged by. -/
structure Trial where
  suite : Suite
  case : TestCase
  outcome : Outcome
  capture : Capture
  /-- The files when the process has ended. -/
  files : FileTree
  /-- The time limit in seconds. -/
  limit : Nat
  /-- How the output is compared. -/
  mode : CompareMode
  /-- Whether the captures of a passing case are kept. -/
  keep : Bool

/-- A result that names the captures. -/
def CaseResult.withCaptures (r : CaseResult) (capture : Capture) : CaseResult :=
  { r with stdoutPath := some capture.stdout, stderrPath := some capture.stderr }

namespace Trial

/-- The filters of the suite, and after them those of the case. -/
def filters (t : Trial) : List Filter := t.suite.defaults.filters ++ t.case.filters

/-- A failure with its message; the captures are named. -/
def failure (t : Trial) (message : String) : CaseResult :=
  (CaseResult.fail t.suite t.case message).withCaptures t.capture

/-- The process has ended in time and as the case expects it, and has left an output. -/
structure EndedWell (t : Trial) (actual : List Char) : Prop where
  inTime : t.outcome.timedOut = false
  expected : t.outcome.exitCode = some t.case.expectExitCode
  output : ∃ bytes, t.files.readBytes t.capture.stdout = .ok bytes ∧
    actual = Utf8.decodeLossy bytes

/-- The output is to be compared with a reference, which can be read. -/
structure HasReference (t : Trial) (expected : List Char) : Prop where
  mode : t.mode ≠ .none
  read : ∃ reference bytes, t.case.reference = some reference ∧
    t.files.readBytes (Path.join t.suite.dir reference) = .ok bytes ∧
    expected = Utf8.decodeLossy bytes

/-- The output was compared with the reference.  The filtered mode takes the filters for this, which
can all be read. -/
def Compared (t : Trial) (actual : List Char) (comparison : Comparison) : Prop :=
  ∃ expected filters, t.HasReference expected ∧
    (t.mode = .filtered → FilterSet.compile t.filters = .ok filters) ∧
    comparison = compareTexts t.mode filters actual expected

/-- Nothing is to be compared, or there are no differences. -/
def Agrees (t : Trial) (actual : List Char) : Prop :=
  t.mode = .none ∨ ∃ comparison, t.Compared actual comparison ∧ comparison.holds = true

/-- The result of a case by the first check that fails. -/
inductive Judged (t : Trial) : CaseResult → Prop where
  | timedOut (late : t.outcome.timedOut = true) :
      t.Judged
        { t.failure ("timed out after " ++ toString t.limit ++ "s") with timedOut := true }
  | wrongEnd (inTime : t.outcome.timedOut = false)
      (unexpected : t.outcome.exitCode ≠ some t.case.expectExitCode) :
      t.Judged (t.failure
        (t.outcome.describe ++ " (expected " ++ toString t.case.expectExitCode ++ ")"))
  | noOutput {fault : FileFault} (inTime : t.outcome.timedOut = false)
      (expected : t.outcome.exitCode = some t.case.expectExitCode)
      (unread : t.files.readBytes t.capture.stdout = .error fault) :
      t.Judged (.error t.suite t.case
        ("Failed to read " ++ t.capture.stdout ++ ": " ++ fault.message))
  | noReference {actual : List Char} (ended : t.EndedWell actual) (mode : t.mode ≠ .none)
      (missing : t.case.reference = none) :
      t.Judged ((CaseResult.error t.suite t.case
        ("compare mode " ++ t.mode.title ++ " requires a reference file")).withCaptures t.capture)
  | unreadableReference {actual : List Char} {reference : String} {fault : FileFault}
      (ended : t.EndedWell actual) (mode : t.mode ≠ .none)
      (named : t.case.reference = some reference)
      (unread : t.files.readBytes (Path.join t.suite.dir reference) = .error fault) :
      t.Judged ((CaseResult.error t.suite t.case ("cannot read reference " ++
        Path.join t.suite.dir reference ++ ": " ++ fault.message)).withCaptures t.capture)
  | badFilter {actual expected : List Char} {e : FilterError} (ended : t.EndedWell actual)
      (reference : t.HasReference expected) (mode : t.mode = .filtered)
      (bad : FilterSet.compile t.filters = .error e) :
      t.Judged (.error t.suite t.case e.message)
  | differs {actual : List Char} {comparison : Comparison} (ended : t.EndedWell actual)
      (compared : t.Compared actual comparison) (fails : comparison.holds = false) :
      t.Judged
        { t.failure ("output differs from reference in " ++ toString comparison.total ++
            " lines (" ++ toString comparison.expectedLines ++ " expected, " ++
            toString comparison.actualLines ++ " actual)") with
          details := some comparison.render }
  | lacks {actual : List Char} {found rest : List String} {text : String}
      (ended : t.EndedWell actual) (agrees : t.Agrees actual)
      (texts : t.case.expectContains = found ++ text :: rest)
      (before : ∀ x ∈ found, x.toList <:+: actual) (absent : ¬ text.toList <:+: actual) :
      t.Judged (t.failure ("output does not contain '" ++ text ++ "'"))
  | passed {actual : List Char} (ended : t.EndedWell actual) (agrees : t.Agrees actual)
      (texts : ∀ x ∈ t.case.expectContains, x.toList <:+: actual) (unkept : t.keep = false) :
      t.Judged (.pass t.suite t.case)
  | passedAndKept {actual : List Char} (ended : t.EndedWell actual) (agrees : t.Agrees actual)
      (texts : ∀ x ∈ t.case.expectContains, x.toList <:+: actual) (kept : t.keep = true) :
      t.Judged ((CaseResult.pass t.suite t.case).withCaptures t.capture)

/-- What the process means for its case. -/
def verdict (t : Trial) : Verdict :=
  judge t.files t.suite t.case t.capture t.limit t.outcome

variable {t : Trial} {actual : List Char}

/-! ### The end of the process -/

theorem verdict_of_late (late : t.outcome.timedOut = true) : t.verdict = .timedOut t.limit := by
  rw [verdict, judge, if_pos late]

theorem verdict_of_unexpected (inTime : t.outcome.timedOut = false)
    (unexpected : t.outcome.exitCode ≠ some t.case.expectExitCode) :
    t.verdict = .wrongEnd t.outcome t.case.expectExitCode := by
  rw [verdict, judge, if_neg (by simp [inTime]), if_pos unexpected]

theorem verdict_of_unread {fault : FileFault} (inTime : t.outcome.timedOut = false)
    (expected : t.outcome.exitCode = some t.case.expectExitCode)
    (unread : t.files.readBytes t.capture.stdout = .error fault) :
    t.verdict = .noOutput t.capture.stdout fault := by
  rw [verdict, judge, if_neg (by simp [inTime]), if_neg (by simp [expected]), unread]

/-- The output of a process that has ended well is compared first and searched then. -/
theorem verdict_of_endedWell (ended : t.EndedWell actual) :
    t.verdict = (checkReference t.files t.suite t.case actual <|>
      checkContains t.case actual).getD .passed := by
  obtain ⟨bytes, hread, rfl⟩ := ended.output
  rw [verdict, judge, if_neg (by simp [ended.inTime]), if_neg (by simp [ended.expected]), hread]

/-- A process is late, or has not ended as expected, or has no output, or has ended well. -/
theorem end_cases (t : Trial) :
    t.outcome.timedOut = true ∨
    (t.outcome.timedOut = false ∧ t.outcome.exitCode ≠ some t.case.expectExitCode) ∨
    (t.outcome.timedOut = false ∧ t.outcome.exitCode = some t.case.expectExitCode ∧
      ∃ fault, t.files.readBytes t.capture.stdout = .error fault) ∨
    ∃ actual, t.EndedWell actual := by
  cases htime : t.outcome.timedOut with
  | true => exact .inl rfl
  | false =>
    by_cases hcode : t.outcome.exitCode = some t.case.expectExitCode
    · cases hread : t.files.readBytes t.capture.stdout with
      | error fault => exact .inr (.inr (.inl ⟨rfl, hcode, fault, rfl⟩))
      | ok bytes => exact .inr (.inr (.inr ⟨_, htime, hcode, bytes, hread, rfl⟩))
    · exact .inr (.inl ⟨rfl, hcode⟩)

/-! ### The comparison with the reference -/

section Reference

variable (hmode : t.mode = t.suite.modeOf t.case)
include hmode

theorem checkReference_of_uncompared (uncompared : t.mode = .none) :
    checkReference t.files t.suite t.case actual = none := by
  rw [checkReference]
  exact if_pos (hmode ▸ uncompared)

theorem checkReference_of_missing (mode : t.mode ≠ .none) (missing : t.case.reference = none) :
    checkReference t.files t.suite t.case actual = some (.noReference t.mode) := by
  rw [hmode] at mode
  simp only [checkReference, if_neg mode, missing, hmode]

theorem checkReference_of_unread {reference : String} {fault : FileFault} (mode : t.mode ≠ .none)
    (named : t.case.reference = some reference)
    (unread : t.files.readBytes (Path.join t.suite.dir reference) = .error fault) :
    checkReference t.files t.suite t.case actual =
      some (.unreadableReference (Path.join t.suite.dir reference) fault) := by
  rw [hmode] at mode
  simp only [checkReference, if_neg mode, named, unread]

theorem checkReference_of_badFilter {expected : List Char} {e : FilterError}
    (reference : t.HasReference expected) (mode : t.mode = .filtered)
    (bad : FilterSet.compile t.filters = .error e) :
    checkReference t.files t.suite t.case actual = some (.badFilter e.message) := by
  obtain ⟨path, bytes, hnamed, hread, -⟩ := reference.read
  have hcompared : t.suite.modeOf t.case ≠ .none := hmode ▸ reference.mode
  have hfilters : filtersFor (t.suite.modeOf t.case) t.suite t.case = .error e := by
    rw [← hmode, mode]
    exact bad
  simp only [checkReference, if_neg hcompared, hnamed, hread, hfilters]

theorem checkReference_of_compared {comparison : Comparison}
    (h : t.Compared actual comparison) :
    checkReference t.files t.suite t.case actual =
      if comparison.holds then none else some (.differs comparison) := by
  obtain ⟨expected, filters, reference, hcompile, rfl⟩ := h
  obtain ⟨path, bytes, hnamed, hread, rfl⟩ := reference.read
  have hcompared : t.suite.modeOf t.case ≠ .none := hmode ▸ reference.mode
  by_cases hfiltered : t.mode = .filtered
  · have hfilters : filtersFor (t.suite.modeOf t.case) t.suite t.case = .ok filters := by
      rw [← hmode, hfiltered]
      exact hcompile hfiltered
    simp only [checkReference, if_neg hcompared, hnamed, hread, hfilters, hmode]
  · have hfilters : filtersFor (t.suite.modeOf t.case) t.suite t.case = .ok [] := by
      rw [filtersFor]
      exact hmode ▸ hfiltered
    simp only [checkReference, if_neg hcompared, hnamed, hread, hfilters, hmode]
    rw [compareTexts_of_ne_filtered (hmode ▸ hfiltered) [] filters]

theorem checkReference_of_agrees (h : t.Agrees actual) :
    checkReference t.files t.suite t.case actual = none := by
  rcases h with huncompared | ⟨comparison, hcompared, hholds⟩
  · exact checkReference_of_uncompared hmode huncompared
  · rw [checkReference_of_compared hmode hcompared, if_pos hholds]

end Reference

/-- There is nothing to compare, or no reference, or no filters, or there is a comparison. -/
theorem reference_cases (t : Trial) (actual : List Char) :
    t.mode = .none ∨
    (t.mode ≠ .none ∧ t.case.reference = none) ∨
    (t.mode ≠ .none ∧ ∃ reference fault, t.case.reference = some reference ∧
      t.files.readBytes (Path.join t.suite.dir reference) = .error fault) ∨
    (∃ expected e, t.HasReference expected ∧ t.mode = .filtered ∧
      FilterSet.compile t.filters = .error e) ∨
    ∃ comparison, t.Compared actual comparison := by
  by_cases hnone : t.mode = .none
  · exact .inl hnone
  · cases hnamed : t.case.reference with
    | none => exact .inr (.inl ⟨hnone, rfl⟩)
    | some reference =>
      cases hread : t.files.readBytes (Path.join t.suite.dir reference) with
      | error fault => exact .inr (.inr (.inl ⟨hnone, reference, fault, rfl, hread⟩))
      | ok bytes =>
        have hreference : t.HasReference (Utf8.decodeLossy bytes) :=
          ⟨hnone, reference, bytes, hnamed, hread, rfl⟩
        cases hcompile : FilterSet.compile t.filters with
        | ok filters =>
          exact .inr (.inr (.inr (.inr ⟨_, _, filters, hreference, fun _ => hcompile, rfl⟩)))
        | error e =>
          by_cases hmode : t.mode = .filtered
          · exact .inr (.inr (.inr (.inl ⟨_, e, hreference, hmode, rfl⟩)))
          · exact .inr (.inr (.inr (.inr ⟨_, _, [], hreference, fun h => absurd h hmode, rfl⟩)))

/-! ### The texts in the output -/

/-- All texts are found, or there is a first one that is not. -/
theorem contains_cases (t : Trial) (actual : List Char) :
    (∀ x ∈ t.case.expectContains, x.toList <:+: actual) ∨
    ∃ found text rest, t.case.expectContains = found ++ text :: rest ∧
      (∀ x ∈ found, x.toList <:+: actual) ∧ ¬ text.toList <:+: actual := by
  cases hfind : t.case.expectContains.find? fun x => !Text.contains actual x.toList with
  | none =>
    left
    intro x hx
    have hfound := List.find?_eq_none.1 hfind x hx
    rw [Bool.not_eq_true, Bool.not_eq_false'] at hfound
    exact Text.contains_iff.1 hfound
  | some text =>
    obtain ⟨habsent, found, rest, htexts, hfound⟩ := List.find?_eq_some_iff_append.1 hfind
    refine .inr ⟨found, text, rest, htexts, fun x hx => ?_, fun hinfix => ?_⟩
    · have hcontains := hfound x hx
      rw [Bool.not_not] at hcontains
      exact Text.contains_iff.1 hcontains
    · rw [Text.contains_iff.2 hinfix] at habsent
      cases habsent

theorem checkContains_of_all (texts : ∀ x ∈ t.case.expectContains, x.toList <:+: actual) :
    checkContains t.case actual = none := by
  rw [checkContains, List.find?_eq_none.2, Option.map_none]
  intro x hx
  rw [Text.contains_iff.2 (texts x hx)]
  exact Bool.false_ne_true

theorem checkContains_of_absent {found rest : List String} {text : String}
    (texts : t.case.expectContains = found ++ text :: rest)
    (before : ∀ x ∈ found, x.toList <:+: actual) (absent : ¬ text.toList <:+: actual) :
    checkContains t.case actual = some (.lacks text) := by
  have hfind : (t.case.expectContains.find? fun x => !Text.contains actual x.toList) =
      some text := by
    refine List.find?_eq_some_iff_append.2 ⟨?_, found, rest, texts, fun x hx => ?_⟩
    · rw [Bool.not_eq_true', ← Bool.not_eq_true, Text.contains_iff]
      exact absent
    · rw [Bool.not_not]
      exact Text.contains_iff.2 (before x hx)
  rw [checkContains, hfind, Option.map_some]

/-! ### The result -/

/-- The result that is given. -/
def result (t : Trial) : CaseResult := t.verdict.result t.suite t.case t.capture t.keep

theorem result_of_passed (h : t.verdict = .passed) :
    t.result = if t.keep then (CaseResult.pass t.suite t.case).withCaptures t.capture
      else .pass t.suite t.case := by
  rw [result, h]
  cases t.keep <;> rfl

/-- The result that is judged is given. -/
theorem eq_result_of_judged (hmode : t.mode = t.suite.modeOf t.case) {r : CaseResult}
    (h : t.Judged r) : r = t.result := by
  cases h with
  | timedOut late =>
    rw [result, verdict_of_late late]
    rfl
  | wrongEnd inTime unexpected =>
    rw [result, verdict_of_unexpected inTime unexpected]
    rfl
  | noOutput inTime expected unread =>
    rw [result, verdict_of_unread inTime expected unread]
    rfl
  | noReference ended mode missing =>
    rw [result, verdict_of_endedWell ended, checkReference_of_missing hmode mode missing]
    rfl
  | unreadableReference ended mode named unread =>
    rw [result, verdict_of_endedWell ended, checkReference_of_unread hmode mode named unread]
    rfl
  | badFilter ended reference mode bad =>
    rw [result, verdict_of_endedWell ended, checkReference_of_badFilter hmode reference mode bad]
    rfl
  | differs ended compared fails =>
    rw [result, verdict_of_endedWell ended, checkReference_of_compared hmode compared, fails]
    rfl
  | lacks ended agrees texts before absent =>
    rw [result, verdict_of_endedWell ended, checkReference_of_agrees hmode agrees,
      checkContains_of_absent texts before absent]
    rfl
  | passed ended agrees texts unkept =>
    rw [result_of_passed, unkept]
    · rfl
    · rw [verdict_of_endedWell ended, checkReference_of_agrees hmode agrees,
        checkContains_of_all texts]
      rfl
  | passedAndKept ended agrees texts kept =>
    rw [result_of_passed, kept]
    · rfl
    · rw [verdict_of_endedWell ended, checkReference_of_agrees hmode agrees,
        checkContains_of_all texts]
      rfl

/-- An output that agrees with the reference is searched. -/
theorem exists_judged_of_agrees (ended : t.EndedWell actual) (agrees : t.Agrees actual) :
    ∃ r, t.Judged r := by
  rcases t.contains_cases actual with texts | ⟨found, text, rest, texts, before, absent⟩
  · cases hkeep : t.keep with
    | false => exact ⟨_, .passed ended agrees texts hkeep⟩
    | true => exact ⟨_, .passedAndKept ended agrees texts hkeep⟩
  · exact ⟨_, .lacks ended agrees texts before absent⟩

/-- In every case there is a first check that fails, or none does. -/
theorem exists_judged (t : Trial) : ∃ r, t.Judged r := by
  rcases t.end_cases with late | ⟨inTime, unexpected⟩ | ⟨inTime, expected, fault, unread⟩ |
    ⟨actual, ended⟩
  · exact ⟨_, .timedOut late⟩
  · exact ⟨_, .wrongEnd inTime unexpected⟩
  · exact ⟨_, .noOutput inTime expected unread⟩
  · rcases t.reference_cases actual with uncompared | ⟨mode, missing⟩ |
      ⟨mode, reference, fault, named, unread⟩ | ⟨expected, e, reference, mode, bad⟩ |
      ⟨comparison, compared⟩
    · exact exists_judged_of_agrees ended (.inl uncompared)
    · exact ⟨_, .noReference ended mode missing⟩
    · exact ⟨_, .unreadableReference ended mode named unread⟩
    · exact ⟨_, .badFilter ended reference mode bad⟩
    · cases hholds : comparison.holds with
      | true => exact exists_judged_of_agrees ended (.inr ⟨comparison, compared, hholds⟩)
      | false => exact ⟨_, .differs ended compared hholds⟩

/-- **The first check that fails decides**: in every case there is one result that is judged, and it
is the one that is given. -/
theorem judged_iff (hmode : t.mode = t.suite.modeOf t.case) {r : CaseResult} :
    t.Judged r ↔ r = t.result := by
  constructor
  · exact eq_result_of_judged hmode
  · rintro rfl
    obtain ⟨r, h⟩ := t.exists_judged
    rw [← eq_result_of_judged hmode h]
    exact h

namespace Judged

variable {r : CaseResult}

/-- A result says that the time limit was exceeded exactly if it was. -/
theorem timedOut_iff (h : t.Judged r) : r.timedOut = true ↔ t.outcome.timedOut = true := by
  cases h with
  | timedOut late => exact iff_of_true rfl late
  | wrongEnd inTime => exact iff_of_false Bool.false_ne_true (by simp [inTime])
  | noOutput inTime => exact iff_of_false Bool.false_ne_true (by simp [inTime])
  | noReference ended => exact iff_of_false Bool.false_ne_true (by simp [ended.inTime])
  | unreadableReference ended => exact iff_of_false Bool.false_ne_true (by simp [ended.inTime])
  | badFilter ended => exact iff_of_false Bool.false_ne_true (by simp [ended.inTime])
  | differs ended => exact iff_of_false Bool.false_ne_true (by simp [ended.inTime])
  | lacks ended => exact iff_of_false Bool.false_ne_true (by simp [ended.inTime])
  | passed ended => exact iff_of_false Bool.false_ne_true (by simp [ended.inTime])
  | passedAndKept ended => exact iff_of_false Bool.false_ne_true (by simp [ended.inTime])

/-- A result has details exactly if the output differs from the reference, and they are the listing
of the differences. -/
theorem details_iff (hmode : t.mode = t.suite.modeOf t.case) (h : t.Judged r) {text : String} :
    r.details = some text ↔ ∃ actual comparison, t.EndedWell actual ∧
      t.Compared actual comparison ∧ comparison.holds = false ∧ text = comparison.render := by
  constructor
  · intro hdetails
    cases h with
    | differs ended compared fails =>
      exact ⟨_, _, ended, compared, fails, (Option.some.inj hdetails).symm⟩
    | timedOut => cases hdetails
    | wrongEnd => cases hdetails
    | noOutput => cases hdetails
    | noReference => cases hdetails
    | unreadableReference => cases hdetails
    | badFilter => cases hdetails
    | lacks => cases hdetails
    | passed => cases hdetails
    | passedAndKept => cases hdetails
  · rintro ⟨actual, comparison, ended, compared, fails, rfl⟩
    rw [eq_result_of_judged hmode h, ← eq_result_of_judged hmode (.differs ended compared fails)]

end Judged

end Trial

end SuiteRunner
