import SuiteRunner.Proofs.CaseRuns
import SuiteRunner.Proofs.SkipReasons

/-!
# The time that cases have

The time limit of a case comes from one of four places.  The two in the configuration are checked
before anything is run, the two in the suite are not.

* `Config.check_eq_ok`, what a configuration is checked for;
* `Runner.GivesNoTime`, the suites and cases that allow no time, and `Runner.timeoutOf_eq_zero`;
* `Runner.Starts`, the process that is started for a case, and `Runner.exists_launch`: this is the
  process behind a result that says that the time was over;
* **`Runner.has_time`** — all other cases have a second at least, and are not told to have taken too
  long before that;
* `hastySuite_has_no_time`, a suite that is accepted, and whose case has no time.
-/

namespace SuiteRunner

/-- A configuration is checked for its numbers, its time limits and its simulator. -/
theorem Config.check_eq_ok {config : Config} : config.check = .ok () ↔
    config.concurrency ≠ 0 ∧ (config.ranks ≠ 0 ∧ config.threads ≠ 0) ∧
      (config.timeoutOverride ≠ some 0 ∧ config.timeoutSecs ≠ 0) ∧
      Text.isBlank config.simulator.toList = false := by
  rw [Config.check]
  grind

/-- A machine that ends processes for their time limit only when the time is over. -/
def Machine.KeepsTime (machine : Machine) : Prop :=
  ∀ ⦃files launch outcome left⦄, machine files launch = .ok (outcome, left) →
    outcome.timedOut = true → launch.timeoutSecs * 1000 ≤ outcome.elapsedMs

namespace Runner

variable {r : Runner} {s : Suite} {c : TestCase} {machine : Machine} {files : FileTree}

/-- The case, or else its suite, allows no time, and nothing overrides this. -/
def GivesNoTime (r : Runner) (s : Suite) (c : TestCase) : Prop :=
  r.config.timeoutOverride = none ∧ IsLimit c.timeoutSecs s.defaults.timeoutSecs 0

/-- A time limit is zero only if a suite says so. -/
theorem timeoutOf_eq_zero (valid : r.config.check = .ok ()) :
    r.timeoutOf s c = 0 ↔ r.GivesNoTime s c := by
  obtain ⟨-, -, ⟨hoverride, hstandard⟩, -⟩ := Config.check_eq_ok.1 valid
  rw [timeoutOf, Config.timeoutFor, Suite.timeoutOf, GivesNoTime, IsLimit]
  cases htop : r.config.timeoutOverride with
  | some n =>
    rw [htop] at hoverride
    simpa using hoverride
  | none =>
    cases c.timeoutSecs with
    | some n => simp
    | none =>
      cases s.defaults.timeoutSecs with
      | some n => simp
      | none => simpa using hstandard

/-- The process of a case is started when the directory of its captures has been created and both of
them are empty.  It has the arguments, the captures and the time limit of the case. -/
def Starts (r : Runner) (files : FileTree) (s : Suite) (c : TestCase) (ready : FileTree)
    (launch : Launch) : Prop :=
  ∃ made mid, files.createDirectories (r.outputDirOf s) = .ok made ∧
    made.write (r.captureOf made s c).stdout [] = .ok mid ∧
    mid.write (r.captureOf made s c).stderr [] = .ok ready ∧
    launch = ⟨(r.commandOf (r.placeholdersOf made s c) c).program,
      (r.commandOf (r.placeholdersOf made s c) c).argv, r.captureOf made s c, r.timeoutOf s c⟩

/-- A result that says that the time was over is the one of a process that has ended. -/
theorem exists_ended {took : Nat} (h : (r.run machine files s c took).1.timedOut = true) :
    ∃ made left outcome, skipReason? r.config r.install s c = none ∧
      files.createDirectories (r.outputDirOf s) = .ok made ∧
      runCommand machine made (r.commandOf (r.placeholdersOf made s c) c)
        (r.captureOf made s c) (r.timeoutOf s c) = (.ok outcome, left) := by
  rw [run] at h
  cases hskip : skipReason? r.config r.install s c with
  | some reason =>
    rw [hskip] at h
    cases h
  | none =>
    simp only [hskip, execute] at h
    cases hmade : files.createDirectories (r.outputDirOf s) with
    | error fault =>
      rw [hmade] at h
      cases h
    | ok made =>
      simp only [hmade] at h
      generalize hended : runCommand machine made (r.commandOf (r.placeholdersOf made s c) c)
        (r.captureOf made s c) (r.timeoutOf s c) = ended at h
      obtain ⟨fault | outcome, left⟩ := ended
      · cases h
      · exact ⟨made, left, outcome, rfl, rfl, hended⟩

/-- Where a result says that the time was over, the process of the case was ended for its limit. -/
theorem exists_launch {took : Nat} (h : (r.run machine files s c took).1.timedOut = true) :
    ∃ ready launch outcome left, r.Starts files s c ready launch ∧
      machine ready launch = .ok (outcome, left) ∧ launch.timeoutSecs = r.timeoutOf s c ∧
      outcome.timedOut = true := by
  obtain ⟨made, left, outcome, unskipped, hmade, hended⟩ := exists_ended h
  rw [run_eq unskipped hmade hended] at h
  obtain ⟨mid, ready, hout, herr, hmachine⟩ := runCommand_eq_ok hended
  have hmode : (r.trial made left s c outcome).mode = s.modeOf c := mode_trial
  have hjudged := (Trial.judged_iff hmode).2 rfl
  exact ⟨ready, _, outcome, left, ⟨made, mid, hmade, hout, herr, rfl⟩, hmachine, rfl,
    hjudged.timedOut_iff.1 h⟩

/-- **Every case has a second at least, unless its suite gives it no time**, for every configuration
that is accepted.  On a machine that keeps time, no other case is told to have taken too long before
the process that was started for it has had this second. -/
theorem has_time (valid : r.config.check = .ok ()) (s : Suite) (c : TestCase) :
    (1 ≤ r.timeoutOf s c ↔ ¬ r.GivesNoTime s c) ∧
    ∀ machine, Machine.KeepsTime machine → ∀ files took,
      (r.run machine files s c took).1.timedOut = true → ¬ r.GivesNoTime s c →
      ∃ ready launch outcome left, r.Starts files s c ready launch ∧
        machine ready launch = .ok (outcome, left) ∧ launch.timeoutSecs = r.timeoutOf s c ∧
        1000 ≤ outcome.elapsedMs := by
  have hlimit : 1 ≤ r.timeoutOf s c ↔ ¬ r.GivesNoTime s c := by
    rw [← timeoutOf_eq_zero valid, Nat.one_le_iff_ne_zero]
  refine ⟨hlimit, fun machine keeps files took timedOut given => ?_⟩
  obtain ⟨ready, launch, outcome, left, hstarts, hmachine, htime, hlate⟩ := exists_launch timedOut
  have hpassed := keeps hmachine hlate
  have hsecond := hlimit.2 given
  rw [← htime] at hsecond
  exact ⟨ready, launch, outcome, left, hstarts, hmachine, htime, by omega⟩

end Runner

/-- A machine on which no program ends by itself. -/
def stalling : Machine := fun files launch =>
  .ok (.timeout (launch.timeoutSecs * 1000), files)

def slowCase : TestCase := { TestCase.plain "c" "m" with timeoutSecs := some 5 }

theorem slowCase_has_time :
    outRunner.config.check = .ok () ∧ Machine.KeepsTime stalling ∧
    ¬ outRunner.GivesNoTime twinSuite slowCase ∧
    (outRunner.run stalling twinFiles twinSuite slowCase 5001).1.timedOut = true ∧
    1 ≤ outRunner.timeoutOf twinSuite slowCase ∧
    ∃ ready launch outcome left, outRunner.Starts twinFiles twinSuite slowCase ready launch ∧
      stalling ready launch = .ok (outcome, left) ∧
      launch.timeoutSecs = outRunner.timeoutOf twinSuite slowCase ∧ 1000 ≤ outcome.elapsedMs := by
  have valid : outRunner.config.check = .ok () := by decide +kernel
  have keeps : Machine.KeepsTime stalling := by
    intro files launch outcome left h _
    cases h
    exact Nat.le_refl _
  have given : ¬ outRunner.GivesNoTime twinSuite slowCase := by
    simp [Runner.GivesNoTime, IsLimit, slowCase]
  have timedOut : (outRunner.run stalling twinFiles twinSuite slowCase 5001).1.timedOut = true := by
    decide +kernel
  obtain ⟨hlimit, hlaunch⟩ := Runner.has_time valid twinSuite slowCase
  exact ⟨valid, keeps, given, timedOut, hlimit.2 given,
    hlaunch stalling keeps twinFiles 5001 timedOut given⟩

/-- A suite whose case allows no time. -/
def hastyFiles : FileTree := suiteAlone
  "\x7b\"tests\":[\x7b\"name\":\"c\",\"model\":\"m.sh\",\"timeout_secs\":0\x7d]\x7d"

def hastyCase : TestCase := { TestCase.plain "c" "m.sh" with timeoutSecs := some 0 }

def hastySuite : Suite :=
  ⟨"demo", none, [], .none, [hastyCase], "testsuite_default_demo.json", "default"⟩

/-- The suite and the configuration are accepted, and the case is told to have taken too long when
its process has had no time at all. -/
theorem hastySuite_has_no_time :
    (loadSuite hastyFiles "testsuite_default_demo.json").toOption = some hastySuite ∧
    hastyCase ∈ hastySuite.cases ∧ outRunner.config.check = .ok () ∧
    outRunner.timeoutOf hastySuite hastyCase = 0 ∧
    (outRunner.run stalling hastyFiles hastySuite hastyCase 1).1 =
      { CaseResult.fail hastySuite hastyCase "timed out after 0s" with
        durationMs := 1
        stdoutPath := some "/out/demo/c.out"
        stderrPath := some "/out/demo/c.err"
        timedOut := true } := by
  decide +kernel

end SuiteRunner
