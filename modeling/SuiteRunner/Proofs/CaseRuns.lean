import SuiteRunner.Proofs.CapturePaths
import SuiteRunner.Proofs.FileChanges
import SuiteRunner.Proofs.Verdicts

/-!
# What comes of a case

A case that is not skipped has its process started with two empty files that take the output.  When
the process has ended, the first check that fails says what the result is, and the files are removed
if nobody asks for them.

* `Runner.readBytes_discard`, what can be read after a file was removed;
* `runCommand_eq_ok` and `Runner.captures_empty`, how the process is started;
* `Runner.trial`, what a case is judged by, and `Trial.Concluded`, what comes of it;
* **`Runner.run_concluded`** — for every machine, configuration, suite and case, what comes of a case
  whose process has ended.
-/

namespace SuiteRunner

/-! ### Removed files -/

namespace Runner

open FileTree

section Removal

variable {t : FileTree} {path other other' : String} {l : Location} {content : Bytes}

/-- A file that can be read is removed, and otherwise nothing happens. -/
theorem discard_cases (t : FileTree) (path : String) :
    ((∀ content, t.readBytes path ≠ .ok content) ∧ discard t path = t) ∨
    ∃ l, t.locate path = .ok l ∧ t.SameBut (discard t path) l ∧
      entry? (discard t path) l = none := by
  cases hremove : t.remove path with
  | ok t' =>
    have hdiscard : discard t path = t' := by
      rw [discard, hremove]
      rfl
    rw [hdiscard]
    exact .inr (sameBut_of_remove hremove)
  | error fault =>
    refine .inl ⟨fun content hread => ?_, ?_⟩
    · obtain ⟨t', ht'⟩ := remove_of_readBytes hread
      rw [hremove] at ht'
      cases ht'
    · rw [discard, hremove]
      rfl

theorem locate_discard : (discard t path).locate other = .ok l ↔ t.locate other = .ok l := by
  rcases discard_cases t path with ⟨-, hsame⟩ | ⟨k, -, same, -⟩
  · rw [hsame]
  · exact same.locate_iff

theorem samePlace_discard :
    (discard t path).SamePlace other other' ↔ t.SamePlace other other' := by
  simp only [SamePlace, locate_discard]

/-- **What is read after a file was removed** is what was read before, but not at the place of the
file. -/
theorem readBytes_discard :
    (discard t path).readBytes other = .ok content ↔
      t.readBytes other = .ok content ∧ ¬ t.SamePlace other path := by
  rcases discard_cases t path with ⟨hunread, hsame⟩ | ⟨l, hlocate, same, hnone⟩
  · -- Nothing was removed, so there is no file at the place.
    rw [hsame, iff_self_and]
    rintro hread ⟨l, hother, hpath⟩
    obtain ⟨k, hk, hentry⟩ := readBytes_eq_ok.1 hread
    rw [hother] at hk
    cases hk
    exact hunread content (readBytes_eq_ok.2 ⟨l, hpath, hentry⟩)
  · constructor
    · intro hread
      obtain ⟨k, hk, hentry⟩ := readBytes_eq_ok.1 hread
      -- Nothing is left at the location of the file.
      have hkl : k ≠ l := by
        rintro rfl
        rw [hnone] at hentry
        cases hentry
      rw [same.elsewhere k hkl] at hentry
      refine ⟨readBytes_eq_ok.2 ⟨k, locate_discard.1 hk, hentry⟩, ?_⟩
      rintro ⟨m, hother, hpath⟩
      rw [locate_discard.1 hk] at hother
      rw [hlocate] at hpath
      cases hother
      cases hpath
      exact hkl rfl
    · rintro ⟨hread, hplace⟩
      exact same.readBytes_of_ne hread fun hother => hplace ⟨l, hother, hlocate⟩

/-- The captures are gone, and everything else is as it was. -/
theorem readBytes_discard_discard {path' : String} :
    (discard (discard t path) path').readBytes other = .ok content ↔
      t.readBytes other = .ok content ∧ ¬ t.SamePlace other path ∧ ¬ t.SamePlace other path' := by
  rw [readBytes_discard, readBytes_discard, samePlace_discard, and_assoc]

end Removal

end Runner

/-! ### Started processes -/

/-- A process that has ended was started when both captures had been written. -/
theorem runCommand_eq_ok {machine : Machine} {files left : FileTree} {command : Command}
    {capture : Capture} {limit : Nat} {outcome : Outcome}
    (h : runCommand machine files command capture limit = (.ok outcome, left)) :
    ∃ mid ready, files.write capture.stdout [] = .ok mid ∧
      mid.write capture.stderr [] = .ok ready ∧
      machine ready ⟨command.program, command.argv, capture, limit⟩ = .ok (outcome, left) := by
  rw [runCommand] at h
  cases hout : files.write capture.stdout [] with
  | error fault =>
    rw [hout] at h
    cases h
  | ok mid =>
    rw [hout] at h
    cases herr : mid.write capture.stderr [] with
    | error fault =>
      simp only [herr] at h
      cases h
    | ok ready =>
      simp only [herr] at h
      cases hmachine : machine ready ⟨command.program, command.argv, capture, limit⟩ with
      | error fault =>
        rw [hmachine] at h
        cases h
      | ok ended =>
        rw [hmachine] at h
        cases h
        exact ⟨mid, ready, rfl, herr, hmachine⟩

namespace Runner

variable {r : Runner} {files made left mid ready : FileTree} {s : Suite} {c : TestCase}
  {machine : Machine} {elapsedMs : Nat}

theorem run_of_skipped {reason : SkipReason} (h : skipReason? r.config r.install s c = some reason) :
    r.run machine files s c elapsedMs = (.skip s c reason.message, files) := by
  rw [run, h]

theorem run_of_unskipped (h : skipReason? r.config r.install s c = none) :
    r.run machine files s c elapsedMs =
      ((r.execute machine files s c).1.withDuration elapsedMs, (r.execute machine files s c).2) := by
  rw [run, h]

/-- Both captures are empty when the process is started: the second one does not come in the place
of the first one. -/
theorem captures_empty (hout : files.write (r.captureOf made s c).stdout [] = .ok mid)
    (herr : mid.write (r.captureOf made s c).stderr [] = .ok ready) :
    ready.readBytes (r.captureOf made s c).stdout = .ok [] ∧
      ready.readBytes (r.captureOf made s c).stderr = .ok [] := by
  have hne : fileSafe c.name ++ ".err" ≠ fileSafe c.name ++ ".out" := fun h =>
    absurd ((String.append_right_inj _).1 h) (by decide)
  refine ⟨?_, FileTree.readBytes_write_self herr⟩
  have hread := FileTree.readBytes_write_self hout
  rw [stdout_captureOf] at hread ⊢
  rw [stderr_captureOf] at herr
  exact FileTree.readBytes_write_of_ne (isName_err _) (isName_out _) hne herr hread

end Runner

/-! ### Conclusions -/

/-- What comes of a case when its process has ended on a machine, and the result is there after a
time. -/
structure Trial.Concluded (t : Trial) (machine : Machine) (elapsedMs : Nat) (result : CaseResult)
    (after : FileTree) : Prop where
  /-- The process was started with the time limit and with empty captures. -/
  started : ∃ ready program argv,
    machine ready ⟨program, argv, t.capture, t.limit⟩ = .ok (t.outcome, t.files) ∧
    ready.readBytes t.capture.stdout = .ok [] ∧ ready.readBytes t.capture.stderr = .ok []
  /-- The first check that fails decides. -/
  judged : ∀ r, t.Judged r ↔ r = result.untimed
  duration : result.durationMs = elapsedMs % Numeral.size64
  timedOut : result.timedOut = true ↔ t.outcome.timedOut = true
  details : ∀ text, result.details = some text ↔ ∃ actual comparison, t.EndedWell actual ∧
    t.Compared actual comparison ∧ comparison.holds = false ∧ text = comparison.render
  /-- The captures stay as the process has left them, and are named. -/
  kept : (∃ bytes, t.files.readBytes t.capture.stdout = .ok bytes) →
    (∃ filters, FilterSet.compile t.filters = .ok filters) →
    ¬ (result.status = .pass ∧ t.keep = false) →
    result.stdoutPath = some t.capture.stdout ∧ result.stderrPath = some t.capture.stderr ∧
      after = t.files
  /-- The captures of a passing case are removed, and nothing else is. -/
  removed : result.status = .pass → t.keep = false →
    result.stdoutPath = none ∧ result.stderrPath = none ∧
      after.isFile t.capture.stdout = false ∧ after.isFile t.capture.stderr = false ∧
      ∀ path content, after.readBytes path = .ok content ↔
        t.files.readBytes path = .ok content ∧ ¬ t.files.SamePlace path t.capture.stdout ∧
          ¬ t.files.SamePlace path t.capture.stderr

namespace Trial

variable {t : Trial} {r : CaseResult} {machine : Machine}

/-- The captures are named if the output and the filters can be read, unless the case has passed and
they are not kept. -/
theorem Judged.captures_named (h : t.Judged r)
    (readable : ∃ bytes, t.files.readBytes t.capture.stdout = .ok bytes)
    (compiled : ∃ filters, FilterSet.compile t.filters = .ok filters)
    (wanted : ¬ (r.status = .pass ∧ t.keep = false)) :
    r.stdoutPath = some t.capture.stdout ∧ r.stderrPath = some t.capture.stderr := by
  cases h with
  | noOutput inTime expected unread =>
    obtain ⟨bytes, hread⟩ := readable
    rw [unread] at hread
    cases hread
  | badFilter ended reference mode bad =>
    obtain ⟨filters, hcompile⟩ := compiled
    rw [bad] at hcompile
    cases hcompile
  | passed ended agrees texts unkept => exact absurd ⟨rfl, unkept⟩ wanted
  | timedOut => exact ⟨rfl, rfl⟩
  | wrongEnd => exact ⟨rfl, rfl⟩
  | noReference => exact ⟨rfl, rfl⟩
  | unreadableReference => exact ⟨rfl, rfl⟩
  | differs => exact ⟨rfl, rfl⟩
  | lacks => exact ⟨rfl, rfl⟩
  | passedAndKept => exact ⟨rfl, rfl⟩

/-- A case that has passed without its captures being kept does not name them. -/
theorem Judged.captures_unnamed (h : t.Judged r) (pass : r.status = .pass)
    (unkept : t.keep = false) : r.stdoutPath = none ∧ r.stderrPath = none := by
  cases h with
  | passed => exact ⟨rfl, rfl⟩
  | passedAndKept ended agrees texts kept =>
    rw [unkept] at kept
    cases kept
  | timedOut => cases pass
  | wrongEnd => cases pass
  | noOutput => cases pass
  | noReference => cases pass
  | unreadableReference => cases pass
  | badFilter => cases pass
  | differs => cases pass
  | lacks => cases pass

/-- The files when the captures of a passing case have been removed, unless they are kept. -/
def after (t : Trial) : FileTree :=
  if t.verdict.status = .pass && !t.keep then
    Runner.discard (Runner.discard t.files t.capture.stdout) t.capture.stderr
  else t.files

/-- A process that was started with empty captures comes to its conclusion. -/
theorem concluded (hmode : t.mode = t.suite.modeOf t.case) (elapsedMs : Nat)
    (started : ∃ ready program argv,
      machine ready ⟨program, argv, t.capture, t.limit⟩ = .ok (t.outcome, t.files) ∧
      ready.readBytes t.capture.stdout = .ok [] ∧ ready.readBytes t.capture.stderr = .ok []) :
    t.Concluded machine elapsedMs (t.result.withDuration elapsedMs) t.after := by
  have hjudged : t.Judged t.result := (judged_iff hmode).2 rfl
  have hstatus : (t.result.withDuration elapsedMs).status = t.verdict.status := rfl
  exact {
    started := started
    judged := fun _ => judged_iff hmode
    duration := rfl
    timedOut := hjudged.timedOut_iff
    details := fun _ => hjudged.details_iff hmode
    kept := by
      intro readable compiled wanted
      obtain ⟨hstdout, hstderr⟩ := hjudged.captures_named readable compiled wanted
      refine ⟨hstdout, hstderr, if_neg ?_⟩
      simpa [hstatus] using wanted
    removed := by
      intro pass unkept
      obtain ⟨hstdout, hstderr⟩ := hjudged.captures_unnamed pass unkept
      have hafter : t.after =
          Runner.discard (Runner.discard t.files t.capture.stdout) t.capture.stderr := by
        rw [hstatus] at pass
        exact if_pos (by simp [pass, unkept])
      rw [hafter]
      refine ⟨hstdout, hstderr, FileTree.isFile_eq_false fun content hread => ?_,
        FileTree.isFile_eq_false fun content hread => ?_,
        fun _ _ => Runner.readBytes_discard_discard⟩
      · obtain ⟨hread, hplace, -⟩ := Runner.readBytes_discard_discard.1 hread
        exact hplace (FileTree.samePlace_self hread)
      · obtain ⟨hread, -, hplace⟩ := Runner.readBytes_discard_discard.1 hread
        exact hplace (FileTree.samePlace_self hread) }

end Trial

namespace Runner

variable {r : Runner} {files made left : FileTree} {s : Suite} {c : TestCase}
  {machine : Machine} {outcome : Outcome}

/-- What a case is judged by.  The limit of the configuration that overrides all others comes before
those of the case and of the suite, and after them comes the one of the configuration.  The mode of
the case comes before that of the suite; without them an output is compared if there is a reference,
and filtered for it if there are filters. -/
def trial (r : Runner) (made left : FileTree) (s : Suite) (c : TestCase) (outcome : Outcome) :
    Trial where
  suite := s
  case := c
  outcome := outcome
  capture := r.captureOf made s c
  files := left
  limit := (r.config.timeoutOverride <|> c.timeoutSecs <|> s.defaults.timeoutSecs).getD
    r.config.timeoutSecs
  mode := (c.mode <|> s.defaults.mode).getD
    (if c.reference = none then .none
    else if s.defaults.filters ++ c.filters = [] then .exact else .filtered)
  keep := r.config.keepOutputs

theorem limit_trial (r : Runner) (made left : FileTree) (s : Suite) (c : TestCase)
    (outcome : Outcome) : (r.trial made left s c outcome).limit = r.timeoutOf s c := by
  rw [trial, timeoutOf, Config.timeoutFor, Suite.timeoutOf]

theorem mode_trial : (r.trial made left s c outcome).mode = s.modeOf c := by
  rw [trial, Suite.modeOf, Suite.filtersOf]
  cases c.mode <|> s.defaults.mode with
  | some mode => rfl
  | none =>
    cases c.reference with
    | none => rfl
    | some reference => cases s.defaults.filters ++ c.filters <;> rfl

/-- A case that is not skipped and whose process has ended is judged, its captures are looked after,
and the result is given its duration. -/
theorem run_eq {elapsedMs : Nat} (unskipped : skipReason? r.config r.install s c = none)
    (directory : files.createDirectories (r.outputDirOf s) = .ok made)
    (ended : runCommand machine made (r.commandOf (r.placeholdersOf made s c) c)
      (r.captureOf made s c) (r.timeoutOf s c) = (.ok outcome, left)) :
    r.run machine files s c elapsedMs =
      ((r.trial made left s c outcome).result.withDuration elapsedMs,
        (r.trial made left s c outcome).after) := by
  rw [run_of_unskipped unskipped]
  simp only [execute, directory, ended]
  rw [Trial.result, Trial.after, Trial.verdict, limit_trial]
  rfl

/-- **What comes of a case whose process has ended**, for every machine, configuration, suite and
case, after whatever time: the result is the one of the first check that fails, and the captures are
left as they are unless the case has passed and they are not kept. -/
theorem run_concluded (r : Runner) (machine : Machine) (files made left : FileTree) (s : Suite)
    (c : TestCase) (elapsedMs : Nat) (outcome : Outcome)
    (unskipped : skipReason? r.config r.install s c = none)
    (directory : files.createDirectories (r.outputDirOf s) = .ok made)
    (ended : runCommand machine made (r.commandOf (r.placeholdersOf made s c) c)
      (r.captureOf made s c) (r.timeoutOf s c) = (.ok outcome, left)) :
    (r.trial made left s c outcome).Concluded machine elapsedMs
      (r.run machine files s c elapsedMs).1 (r.run machine files s c elapsedMs).2 := by
  obtain ⟨mid, ready, hout, herr, hmachine⟩ := runCommand_eq_ok ended
  rw [← r.limit_trial made left s c outcome] at hmachine
  rw [run_eq unskipped directory ended]
  exact Trial.concluded mode_trial elapsedMs ⟨ready, _, _, hmachine, captures_empty hout herr⟩

end Runner

/-! ### A run -/

/-- A machine on which every program writes a text and ends. -/
def printing (text : String) : Machine := fun files launch =>
  match files.write launch.capture.stdout (Utf8.encode text.toList) with
  | .ok left => .ok (.exited 0, left)
  | .error fault => .error (.file fault)

/-- A directory with a reference in it. -/
def referenceFiles : FileTree := ⟨[(["ref.txt"], .file (Utf8.encode "a\n".toList))], []⟩

/-- A case whose output is compared with the reference. -/
def comparedCase : TestCase := { TestCase.plain "c" "m" with reference := some "ref.txt" }

def comparedSuite : Suite := { twinSuite with cases := [comparedCase] }

theorem comparedCase_concluded :
    skipReason? outRunner.config outRunner.install comparedSuite comparedCase = none ∧
    ∃ made left,
      referenceFiles.createDirectories (outRunner.outputDirOf comparedSuite) = .ok made ∧
      runCommand (printing "b\n") made
        (outRunner.commandOf (outRunner.placeholdersOf made comparedSuite comparedCase)
          comparedCase)
        (outRunner.captureOf made comparedSuite comparedCase)
        (outRunner.timeoutOf comparedSuite comparedCase) = (.ok (.exited 0), left) ∧
      (outRunner.trial made left comparedSuite comparedCase (.exited 0)).Concluded (printing "b\n")
        1500 (outRunner.run (printing "b\n") referenceFiles comparedSuite comparedCase 1500).1
        (outRunner.run (printing "b\n") referenceFiles comparedSuite comparedCase 1500).2 := by
  have unskipped : skipReason? outRunner.config outRunner.install comparedSuite comparedCase =
    none := by decide
  have hruns : ((referenceFiles.createDirectories (outRunner.outputDirOf comparedSuite)).map
      fun made => (runCommand (printing "b\n") made
        (outRunner.commandOf (outRunner.placeholdersOf made comparedSuite comparedCase)
          comparedCase)
        (outRunner.captureOf made comparedSuite comparedCase)
        (outRunner.timeoutOf comparedSuite comparedCase)).1) = .ok (.ok (.exited 0)) := by
    decide +kernel
  obtain ⟨made, directory, hruns⟩ := map_eq_ok.1 hruns
  generalize hended : runCommand _ made _ _ _ = ended at hruns
  obtain ⟨_, left⟩ := ended
  cases hruns
  exact ⟨unskipped, made, left, directory, hended,
    outRunner.run_concluded _ _ _ _ _ _ 1500 _ unskipped directory hended⟩

end SuiteRunner
