import SuiteRunner.CommandLine.Commands
import SuiteRunner.Proofs.FileChanges

/-!
# What a command has done when it succeeds

A command is a sequence of steps, each of which may fail.  When the command has come to its end,
every step has succeeded, on the files that the step before it has left.

* `Work.bind_eq_ok` and one lemma for each step, such as `Work.createOutput_eq_ok` and
  `Work.writeReports_eq_ok`;
* **`Work.showReport_eq_ok`** — when a report succeeds;
* `carryOut_eq` and `carryOut_of_ok`, which lead from commands to replies and back.
-/

namespace SuiteRunner

namespace Work

variable {α β ε : Type} {d d' : Desk} {site : Site} {c : Config}

/-! ### Steps -/

theorem bind_eq_ok {x : Work α} {f : α → Work β} {b : β} :
    (x >>= f) d = .ok b d' ↔ ∃ a m, x d = .ok a m ∧ f a m = .ok b d' := by
  show EStateM.bind x f d = .ok b d' ↔ _
  rw [EStateM.bind]
  cases x d with
  | ok a m => simp
  | error e m => simp

theorem map_eq_ok {f : α → β} {x : Work α} {b : β} :
    (f <$> x) d = .ok b d' ↔ ∃ a, x d = .ok a d' ∧ f a = b := by
  show EStateM.map f x d = .ok b d' ↔ _
  rw [EStateM.map]
  cases x d with
  | ok a m => simp [and_comm]
  | error e m => simp

theorem pure_eq_ok {a b : α} : (pure a : Work α) d = .ok b d' ↔ b = a ∧ d' = d := by
  show EStateM.Result.ok a d = .ok b d' ↔ _
  simp [eq_comm]

theorem expect_eq_ok {fault : ε → CommandFault} {x : Except ε α} {a : α} :
    expect fault x d = .ok a d' ↔ x = .ok a ∧ d' = d := by
  cases x with
  | error e =>
    show EStateM.Result.error (fault e) d = .ok a d' ↔ _
    simp
  | ok b => simp [expect, pure_eq_ok, eq_comm]

theorem files_eq_ok {t : FileTree} : files d = .ok t d' ↔ t = d.files ∧ d' = d := by
  show EStateM.Result.ok d.files d = .ok t d' ↔ _
  simp [eq_comm]

theorem setFiles_eq_ok {t : FileTree} {u : Unit} :
    setFiles t d = .ok u d' ↔ d' = { d with files := t } := by
  show EStateM.Result.ok () { d with files := t } = .ok u d' ↔ _
  simp [eq_comm]

theorem put_eq_ok {text : String} {u : Unit} :
    put text d = .ok u d' ↔ d' = { d with printed := d.printed ++ text } := by
  show EStateM.Result.ok () { d with printed := d.printed ++ text } = .ok u d' ↔ _
  simp [eq_comm]

theorem putLine_eq_ok {text : String} {u : Unit} :
    putLine text d = .ok u d' ↔ d' = { d with printed := d.printed ++ (text ++ "\n") } :=
  put_eq_ok

theorem baseConfig_eq_ok {g : Globals} : baseConfig site g d = .ok c d' ↔
    Config.resolve d.files site.environment g.settingsFile g.profile = .ok c ∧ d' = d := by
  simp only [baseConfig, bind_eq_ok, files_eq_ok, expect_eq_ok]
  constructor
  · rintro ⟨_, _, ⟨rfl, rfl⟩, h⟩
    exact h
  · exact fun h => ⟨_, _, ⟨rfl, rfl⟩, h⟩

theorem formatNamed_eq_ok {name : String} {format : OutputFormat} :
    formatNamed name d = .ok format d' ↔ OutputFormat.ofName? name = some format ∧ d' = d := by
  rw [formatNamed]
  cases OutputFormat.ofName? name with
  | none =>
    show EStateM.Result.error (CommandFault.unknownFormat name) d = .ok format d' ↔ _
    simp
  | some f => simp [pure_eq_ok, eq_comm]

theorem createOutput_eq_ok {u : Unit} : createOutput c d = .ok u d' ↔
    ∃ made, d.files.createDirectories c.outputDir = .ok made ∧ d' = { d with files := made } := by
  simp only [createOutput, bind_eq_ok, files_eq_ok, expect_eq_ok, setFiles_eq_ok]
  constructor
  · rintro ⟨_, _, ⟨rfl, rfl⟩, made, _, ⟨hmade, rfl⟩, rfl⟩
    exact ⟨made, hmade, rfl⟩
  · rintro ⟨made, hmade, rfl⟩
    exact ⟨_, _, ⟨rfl, rfl⟩, made, _, ⟨hmade, rfl⟩, rfl⟩

theorem suitesOf_eq_ok {s : CaseSelection} {suites : List Suite} :
    suitesOf c s d = .ok suites d' ↔
      discover d.files ⟨c.searchPaths, c.testType, c.pattern⟩
        (if s.suiteFiles.isEmpty then none else some s.suiteFiles) = .ok suites ∧ d' = d := by
  simp only [suitesOf, bind_eq_ok, files_eq_ok, expect_eq_ok]
  constructor
  · rintro ⟨_, _, ⟨rfl, rfl⟩, h⟩
    exact h
  · exact fun h => ⟨_, _, ⟨rfl, rfl⟩, h⟩

/-- The installation is what its record says, if there is one, and to look at it changes nothing. -/
theorem installOf_eq_ok {install : Option SimulatorConf} :
    installOf site c d = .ok install d' ↔
      (match SimulatorConf.locate? d.files site.environment c.installFile with
        | none => install = none
        | some path => ∃ conf, SimulatorConf.load d.files path = .ok conf ∧ install = some conf) ∧
        d' = d := by
  have hpath : installPath? site c d =
      .ok (SimulatorConf.locate? d.files site.environment c.installFile) d := rfl
  rw [installOf, bind_eq_ok]
  simp only [hpath, EStateM.Result.ok.injEq]
  cases SimulatorConf.locate? d.files site.environment c.installFile with
  | none =>
    constructor
    · rintro ⟨_, _, ⟨rfl, rfl⟩, h⟩
      exact pure_eq_ok.1 h
    · exact fun h => ⟨_, _, ⟨rfl, rfl⟩, pure_eq_ok.2 h⟩
  | some path =>
    have hload : ∀ {conf m}, loadInstall path d = .ok conf m ↔
        SimulatorConf.load d.files path = .ok conf ∧ m = d := by
      intro conf m
      simp only [loadInstall, bind_eq_ok, files_eq_ok, expect_eq_ok]
      constructor
      · rintro ⟨_, _, ⟨rfl, rfl⟩, h⟩
        exact h
      · exact fun h => ⟨_, _, ⟨rfl, rfl⟩, h⟩
    constructor
    · rintro ⟨_, _, ⟨rfl, rfl⟩, h⟩
      obtain ⟨conf, hconf, rfl⟩ := map_eq_ok.1 h
      obtain ⟨hconf, rfl⟩ := hload.1 hconf
      exact ⟨⟨conf, hconf, rfl⟩, rfl⟩
    · rintro ⟨⟨conf, hconf, rfl⟩, rfl⟩
      exact ⟨_, _, ⟨rfl, rfl⟩, map_eq_ok.2 ⟨conf, hload.2 ⟨hconf, rfl⟩, rfl⟩⟩

theorem writeReports_eq_ok {dir : String} {run : RunSummary} {u : Unit} :
    writeReports site dir run d = .ok u d' ↔ ∃ paths written,
      Junit.writeAll dir site.host d.files run = .ok (paths, written) ∧
        d' = { d with files := written } := by
  simp only [writeReports, bind_eq_ok, files_eq_ok, expect_eq_ok, setFiles_eq_ok]
  constructor
  · rintro ⟨_, _, ⟨rfl, rfl⟩, ⟨paths, written⟩, _, ⟨hwrite, rfl⟩, rfl⟩
    exact ⟨paths, written, hwrite, rfl⟩
  · rintro ⟨paths, written, hwrite, rfl⟩
    exact ⟨_, _, ⟨rfl, rfl⟩, (paths, written), _, ⟨hwrite, rfl⟩, rfl⟩

/-! ### Reports -/

theorem savedRun_eq_ok {dir : String} {id : Option String} {run : StoredRun} :
    savedRun dir id d = .ok run d' ↔ d' = d ∧
      match id with
      | some id => (RunStore.ofOutput dir).load d.files id = .ok run
      | none => (RunStore.ofOutput dir).latest? d.files = .ok (some run) := by
  cases id with
  | some id =>
    simp only [savedRun, bind_eq_ok, files_eq_ok, expect_eq_ok]
    constructor
    · rintro ⟨_, _, ⟨rfl, rfl⟩, hload, rfl⟩
      exact ⟨rfl, hload⟩
    · rintro ⟨rfl, hload⟩
      exact ⟨_, _, ⟨rfl, rfl⟩, hload, rfl⟩
  | none =>
    simp only [savedRun, bind_eq_ok, files_eq_ok, expect_eq_ok]
    constructor
    · rintro ⟨_, _, ⟨rfl, rfl⟩, found, _, ⟨hlatest, rfl⟩, h⟩
      cases found with
      | none => cases h
      | some x =>
        obtain ⟨rfl, rfl⟩ := pure_eq_ok.1 h
        exact ⟨rfl, hlatest⟩
    · rintro ⟨rfl, hlatest⟩
      exact ⟨_, _, ⟨rfl, rfl⟩, some run, _, ⟨hlatest, rfl⟩, pure_eq_ok.2 ⟨rfl, rfl⟩⟩

/-- **When a report succeeds**: it prints the summary of the saved run, and writes its reports. -/
theorem showReport_eq_ok {g : Globals} {q : ReportRequest} {status : ExitStatus} :
    showReport site g q d = .ok status d' ↔ ∃ base format run paths written,
      Config.resolve d.files site.environment g.settingsFile g.profile = .ok base ∧
      OutputFormat.ofName? q.format = some format ∧
      savedRun (q.outputDir.getD base.outputDir) q.runId d = .ok run d ∧
      Junit.writeAll (q.reportDir.getD run.config.reports) site.host d.files run.summary =
        .ok (paths, written) ∧
      d' = ⟨written, d.printed ++ ((site.formatter format).run run.summary ++ "\n")⟩ ∧
      status = .ofSummary run.summary := by
  simp only [showReport, bind_eq_ok, baseConfig_eq_ok, formatNamed_eq_ok, putLine_eq_ok,
    writeReports_eq_ok, pure_eq_ok]
  constructor
  · rintro ⟨base, _, ⟨hbase, rfl⟩, format, _, ⟨hformat, rfl⟩, run, _, hrun, _, _, rfl, _, _,
      ⟨paths, written, hwrite, rfl⟩, rfl, rfl⟩
    cases (savedRun_eq_ok.1 hrun).1
    exact ⟨base, format, run, paths, written, hbase, hformat, hrun, hwrite, rfl, rfl⟩
  · rintro ⟨base, format, run, paths, written, hbase, hformat, hrun, hwrite, rfl, rfl⟩
    exact ⟨base, _, ⟨hbase, rfl⟩, format, _, ⟨hformat, rfl⟩, run, _, hrun, (), _, rfl, (), _,
      ⟨paths, written, hwrite, rfl⟩, rfl, rfl⟩

end Work

/-! ### Replies -/

/-- A reply without a fault comes from a command that has come to its end. -/
theorem carryOut_eq {site : Site} {files : FileTree} {i : Invocation} {reply : Reply}
    (h : carryOut site files i = reply) (finished : reply.fault = none) :
    ∃ d, Work.perform site i ⟨files, ""⟩ = .ok reply.status d ∧ reply.files = d.files ∧
      reply.printed = d.printed := by
  subst h
  have hrun : (Work.perform site i).run ⟨files, ""⟩ = Work.perform site i ⟨files, ""⟩ := rfl
  rw [carryOut, hrun] at finished ⊢
  cases hperform : Work.perform site i ⟨files, ""⟩ with
  | ok status d => exact ⟨d, rfl, rfl, rfl⟩
  | error fault d =>
    rw [hperform] at finished
    cases finished

theorem carryOut_of_ok {site : Site} {files : FileTree} {i : Invocation} {status : ExitStatus}
    {d : Desk} (h : Work.perform site i ⟨files, ""⟩ = .ok status d) :
    carryOut site files i = ⟨d.printed, d.files, none, status⟩ := by
  have hrun : (Work.perform site i).run ⟨files, ""⟩ = Work.perform site i ⟨files, ""⟩ := rfl
  rw [carryOut, hrun, h]

end SuiteRunner
