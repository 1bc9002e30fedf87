import SuiteRunner.CommandLine.Arguments
import SuiteRunner.Config.Layers
import SuiteRunner.Proofs.FileChanges

/-!
# The topmost layer that says something

A configuration is made of layers: the command line, the environment, the profile that is chosen,
and the settings of every run, above the default values.  A field has the value that the topmost
layer says, and a scenario is active if any layer names it.

* `ConfigField`, the fields that have one value, and `Layer.setting?`, what a layer says about each;
* `ConfigField.of_applyTo` and `Layer.mem_scenarios_applyTo` — what one layer changes;
* `ConfigField.of_stack` and `Layer.mem_scenarios_stack` — what all of them together make;
* **`Config.resolve_layered`** — the configuration of a run is the layered one.
-/

namespace SuiteRunner

/-! ### Fields -/

/-- The fields of a configuration that have one value, by the types of their values.  The scenarios
are not among them. -/
inductive ConfigField : Type → Type 1 where
  | simulator : ConfigField String
  | launcher : ConfigField String
  | oversubscribe : ConfigField Bool
  | ranks : ConfigField Nat
  | threads : ConfigField Nat
  | concurrency : ConfigField Nat
  | timeoutSecs : ConfigField Nat
  | timeoutOverride : ConfigField (Option Nat)
  | outputDir : ConfigField String
  | reportDir : ConfigField (Option String)
  | keepOutputs : ConfigField Bool
  | failFast : ConfigField Bool
  | pattern : ConfigField (Option String)
  | testType : ConfigField String
  | searchPaths : ConfigField (List String)
  | installFile : ConfigField (Option String)

variable {α : Type}

/-- The value of a field. -/
def ConfigField.of (c : Config) : ConfigField α → α
  | simulator => c.simulator
  | launcher => c.launcher
  | oversubscribe => c.oversubscribe
  | ranks => c.ranks
  | threads => c.threads
  | concurrency => c.concurrency
  | timeoutSecs => c.timeoutSecs
  | timeoutOverride => c.timeoutOverride
  | outputDir => c.outputDir
  | reportDir => c.reportDir
  | keepOutputs => c.keepOutputs
  | failFast => c.failFast
  | pattern => c.pattern
  | testType => c.testType
  | searchPaths => c.searchPaths
  | installFile => c.installFile

/-! ### Layers -/

/-- What settings say: neither a time limit for all cases nor a pattern can be set by them. -/
def Settings.setting? (s : Settings) : ConfigField α → Option α
  | .simulator => s.simulator
  | .launcher => s.launcher
  | .oversubscribe => s.oversubscribe
  | .ranks => s.ranks
  | .threads => s.threads
  | .concurrency => s.concurrency
  | .timeoutSecs => s.timeoutSecs
  | .outputDir => s.outputDir
  | .reportDir => s.reportDir.map some
  | .keepOutputs => s.keepOutputs
  | .failFast => s.failFast
  | .testType => s.testType
  | .searchPaths => s.searchPaths
  | .installFile => s.installFile.map some
  | .timeoutOverride | .pattern => Option.none

/-- What the environment says. -/
def EnvSettings.setting? (e : EnvSettings) : ConfigField α → Option α
  | .simulator => e.simulator
  | .launcher => e.launcher
  | .ranks => e.ranks
  | .threads => e.threads
  | .concurrency => e.concurrency
  | .timeoutSecs => e.timeoutSecs
  | .timeoutOverride => e.timeoutOverride.map some
  | .outputDir => e.outputDir
  | .oversubscribe | .reportDir | .keepOutputs | .failFast | .pattern | .testType | .searchPaths
  | .installFile => none

/-- A switch can only say that something is on. -/
def switchedOn (given : Bool) : Option Bool := if given then some true else none

/-- What the command line says: search paths if there are any, and switches that are on. -/
def RunRequest.setting? (r : RunRequest) : ConfigField α → Option α
  | .simulator => r.simulator
  | .launcher => r.launcher
  | .oversubscribe => switchedOn r.oversubscribe
  | .ranks => r.selection.ranks
  | .threads => r.selection.threads
  | .concurrency => r.concurrency
  | .timeoutOverride => r.timeoutOverride.map some
  | .outputDir => r.outputDir
  | .reportDir => r.reportDir.map some
  | .keepOutputs => switchedOn r.keepOutputs
  | .failFast => switchedOn r.failFast
  | .pattern => r.selection.pattern.map some
  | .testType => r.selection.testType
  | .searchPaths =>
    if r.selection.searchPaths = [] then none else some r.selection.searchPaths
  | .installFile => r.selection.installFile.map some
  | .timeoutSecs => none

/-- A layer of a configuration. -/
inductive Layer where
  | commandLine (r : RunRequest)
  | environment (e : EnvSettings)
  | profile (p : Profile)
  /-- The settings of every run. -/
  | engine (s : Settings)

namespace Layer

/-- What a layer says about a field. -/
def setting? (f : ConfigField α) : Layer → Option α
  | commandLine r => r.setting? f
  | environment e => e.setting? f
  | profile p => p.settings.setting? f
  | engine s => s.setting? f

/-- The scenarios that a layer names. -/
def scenarios : Layer → List String
  | commandLine r => r.selection.scenarios
  | environment e => e.scenarios.getD []
  | profile p => p.scenarios
  | engine _ => []

/-- The configuration with a layer laid over it. -/
def applyTo : Layer → Config → Config
  | commandLine r, c => r.applyTo c
  | environment e, c => e.applyTo c
  | profile p, c => p.applyTo c
  | engine s, c => s.applyTo c

/-- The layers over a configuration, the topmost one first. -/
def stack (layers : List Layer) (c : Config) : Config := layers.foldr applyTo c

end Layer

/-! ### What a layer changes -/

theorem map_some_getD {o o' : Option α} : (o.map some).getD o' = (o <|> o') := by
  cases o <;> rfl

theorem switchedOn_getD (given below : Bool) :
    (switchedOn given).getD below = (below || given) := by
  cases given <;> cases below <;> rfl

theorem ConfigField.of_activate (f : ConfigField α) (c : Config) (names : List String) :
    f.of (c.activate names) = f.of c := by
  cases f <;> rfl

theorem ConfigField.of_settings (f : ConfigField α) (s : Settings) (c : Config) :
    f.of (s.applyTo c) = (s.setting? f).getD (f.of c) := by
  cases f <;> first | rfl | exact map_some_getD.symm

/-- **A layer changes the fields that it says something about**, and no other ones. -/
theorem ConfigField.of_applyTo (f : ConfigField α) (l : Layer) (c : Config) :
    f.of (l.applyTo c) = (l.setting? f).getD (f.of c) := by
  cases l with
  | engine s => exact f.of_settings s c
  | profile p => exact (f.of_activate _ _).trans (f.of_settings p.settings c)
  | environment e =>
    refine (f.of_activate _ _).trans ?_
    cases f <;> first | rfl | exact map_some_getD.symm
  | commandLine r =>
    cases f with
    | oversubscribe => exact (switchedOn_getD _ _).symm
    | keepOutputs => exact (switchedOn_getD _ _).symm
    | failFast => exact (switchedOn_getD _ _).symm
    | searchPaths =>
      show (if r.selection.searchPaths.isEmpty then c.searchPaths else r.selection.searchPaths) =
        (if r.selection.searchPaths = [] then none else some r.selection.searchPaths).getD
          c.searchPaths
      cases r.selection.searchPaths <;> rfl
    | _ => first | rfl | exact map_some_getD.symm

theorem Config.mem_addScenario {names : List String} {name x : String} :
    x ∈ addScenario names name ↔ x = name ∨ x ∈ names := by
  rw [addScenario]
  split
  · rename_i hname
    rw [List.contains_iff_mem] at hname
    exact ⟨.inr, fun hx => hx.elim (fun h => h ▸ hname) id⟩
  · rw [List.mem_append, List.mem_singleton, or_comm]

theorem Config.mem_scenarios_activate {c : Config} {names : List String} {x : String} :
    x ∈ (c.activate names).scenarios ↔ x ∈ names ∨ x ∈ c.scenarios := by
  show x ∈ names.foldl addScenario c.scenarios ↔ _
  induction names generalizing c with
  | nil => simp
  | cons name names ih =>
    rw [List.foldl_cons, ih (c := { c with scenarios := addScenario c.scenarios name }),
      mem_addScenario, List.mem_cons, ← or_assoc, or_comm (a := x ∈ names)]

/-- **A layer adds the scenarios that it names.** -/
theorem Layer.mem_scenarios_applyTo {l : Layer} {c : Config} {x : String} :
    x ∈ (l.applyTo c).scenarios ↔ x ∈ l.scenarios ∨ x ∈ c.scenarios := by
  cases l with
  | engine s => simp [applyTo, scenarios, Settings.applyTo]
  | profile p => exact Config.mem_scenarios_activate
  | environment e => exact Config.mem_scenarios_activate
  | commandLine r =>
    show x ∈ c.scenarios ++ r.selection.scenarios ↔ _
    rw [List.mem_append, or_comm]
    rfl

/-! ### All layers -/

/-- **The topmost layer that says something decides.** -/
theorem ConfigField.of_stack (f : ConfigField α) (layers : List Layer) (c : Config) :
    f.of (Layer.stack layers c) = (layers.findSome? (Layer.setting? f)).getD (f.of c) := by
  induction layers with
  | nil => rfl
  | cons l layers ih =>
    rw [Layer.stack, List.foldr_cons, ← Layer.stack, of_applyTo, ih, List.findSome?_cons]
    cases l.setting? f <;> rfl

theorem Layer.mem_scenarios_stack {layers : List Layer} {c : Config} {x : String} :
    x ∈ (stack layers c).scenarios ↔ (∃ l ∈ layers, x ∈ l.scenarios) ∨ x ∈ c.scenarios := by
  induction layers with
  | nil => simp [stack]
  | cons l layers ih =>
    rw [stack, List.foldr_cons, ← stack, mem_scenarios_applyTo, ih]
    simp [or_assoc]

namespace Config

variable {files : FileTree} {env : Environment} {given name : Option String}

/-- The settings file of a run: the one that is given, or else the one that the environment names,
or else the one that is found. -/
def HasFile (files : FileTree) (env : Environment) (given : Option String)
    (file : Option SettingsFile) : Prop :=
  match given <|> (EnvSettings.ofEnvironment env).settingsFile <|> findSettings? files env with
  | none => file = none
  | some path => ∃ f, SettingsFile.load files path = .ok f ∧ file = some f

/-- The profile of a run is the one that is called so in the settings file. -/
def HasProfile (file : Option SettingsFile) (name : Option String) (p : Option Profile) : Prop :=
  match name with
  | none => p = none
  | some n => ∃ f q, file = some f ∧ f.profile? n = some q ∧ p = some q

/-- The layers of the configuration of a run. -/
def layers (r : RunRequest) (env : Environment) (p : Option Profile) (file : Option SettingsFile) :
    List Layer :=
  [.commandLine r, .environment (.ofEnvironment env)] ++ (p.map Layer.profile).toList ++
    (file.map fun f => Layer.engine f.engine).toList

/-- Below the environment lie the profile, the settings of every run and the default values. -/
theorem fromFile_eq_ok {file : Option SettingsFile} {below : Config}
    (h : fromFile file name = .ok below) :
    ∃ p, HasProfile file name p ∧
      below = Layer.stack ((p.map Layer.profile).toList ++
        (file.map fun f => Layer.engine f.engine).toList) standard := by
  cases file with
  | none =>
    cases name with
    | none =>
      cases h
      exact ⟨none, rfl, rfl⟩
    | some n => cases h
  | some f =>
    cases name with
    | none =>
      cases h
      exact ⟨none, rfl, rfl⟩
    | some n =>
      rw [fromFile] at h
      cases hp : f.profile? n with
      | none =>
        rw [hp] at h
        cases h
      | some p =>
        rw [hp] at h
        cases h
        exact ⟨some p, ⟨f, p, rfl, hp, rfl⟩, rfl⟩

/-- A configuration that is resolved is made of the environment, a profile and a file. -/
theorem resolve_eq_ok {base : Config} (h : resolve files env given name = .ok base) :
    ∃ file p, HasFile files env given file ∧ HasProfile file name p ∧
      ∀ r : RunRequest, r.applyTo base = Layer.stack (layers r env p file) standard := by
  -- Whatever the file is, the rest is laid over it.
  have hlaid : ∀ file, HasFile files env given file →
      ((fromFile file name).bind fun below => .ok ((EnvSettings.ofEnvironment env).applyTo below)) =
        .ok base →
      ∃ file p, HasFile files env given file ∧ HasProfile file name p ∧
        ∀ r : RunRequest, r.applyTo base = Layer.stack (layers r env p file) standard := by
    intro file hfile hrest
    obtain ⟨below, hbelow, hbase⟩ := bind_eq_ok.1 hrest
    obtain ⟨p, hp, rfl⟩ := fromFile_eq_ok hbelow
    cases hbase
    exact ⟨file, p, hfile, hp, fun r => rfl⟩
  rw [resolve] at h
  split at h
  · rename_i hpath
    refine hlaid none ?_ h
    rw [HasFile, hpath]
  · rename_i path hpath
    split at h
    · cases h
    · rename_i f hload
      refine hlaid (some f) ?_ h
      rw [HasFile, hpath]
      exact ⟨f, hload, rfl⟩

/-- Where settings can say nothing, the command line and the environment decide. -/
theorem findSome?_layers {f : ConfigField α} (silent : ∀ s : Settings, s.setting? f = none)
    (r : RunRequest) (env : Environment) (p : Option Profile) (file : Option SettingsFile) :
    (layers r env p file).findSome? (Layer.setting? f) =
      (r.setting? f <|> (EnvSettings.ofEnvironment env).setting? f) := by
  have hbelow : ((p.map Layer.profile).toList ++
      (file.map fun g => Layer.engine g.engine).toList).findSome? (Layer.setting? f) = none := by
    cases p <;> cases file <;> simp [Layer.setting?, silent]
  rw [layers, List.append_assoc, List.findSome?_append, hbelow, Option.or_none, List.findSome?_cons]
  show (match r.setting? f with | some a => some a | none => _) = _
  cases r.setting? f with
  | some a => rfl
  | none =>
    show (match (EnvSettings.ofEnvironment env).setting? f with | some a => some a | none => _) = _
    cases (EnvSettings.ofEnvironment env).setting? f <;> rfl

/-- **The configuration of a run is the layered one.**  Every field has the value of the topmost
layer that says something about it, or else its default value.  The time limit for all cases comes
from the command line and the environment only, and the pattern from the command line only; what is
switched on below stays on; and a scenario is active exactly if the command line, the environment or
the profile names it. -/
theorem resolve_layered {base : Config} (h : resolve files env given name = .ok base)
    (r : RunRequest) :
    ∃ file p, HasFile files env given file ∧ HasProfile file name p ∧
      (∀ {α : Type} (f : ConfigField α), f.of (r.applyTo base) =
        ((layers r env p file).findSome? (Layer.setting? f)).getD (f.of standard)) ∧
      (r.applyTo base).timeoutOverride =
        (r.timeoutOverride <|> (EnvSettings.ofEnvironment env).timeoutOverride) ∧
      (r.applyTo base).pattern = r.selection.pattern ∧
      (∀ f ∈ [ConfigField.oversubscribe, .keepOutputs, .failFast],
        f.of base = true → f.of (r.applyTo base) = true) ∧
      (∀ x, (r.applyTo base).isActive x = true ↔
        x ∈ r.selection.scenarios ∨
        (∃ names, (EnvSettings.ofEnvironment env).scenarios = some names ∧ x ∈ names) ∨
        ∃ q, p = some q ∧ x ∈ q.scenarios) := by
  obtain ⟨file, p, hfile, hp, hstack⟩ := resolve_eq_ok h
  have hfields : ∀ {α : Type} (f : ConfigField α), f.of (r.applyTo base) =
      ((layers r env p file).findSome? (Layer.setting? f)).getD (f.of standard) := by
    intro α f
    rw [hstack, f.of_stack]
  refine ⟨file, p, hfile, hp, hfields, ?_, ?_, fun f hf hon => ?_, fun x => ?_⟩
  · refine (hfields .timeoutOverride).trans ?_
    rw [findSome?_layers fun _ => rfl]
    show ((r.timeoutOverride.map some <|> Option.map some _).getD none) = _
    cases r.timeoutOverride with
    | some n => rfl
    | none => cases (EnvSettings.ofEnvironment env).timeoutOverride <;> rfl
  · refine (hfields .pattern).trans ?_
    rw [findSome?_layers fun _ => rfl]
    show ((r.selection.pattern.map some <|> none).getD none) = _
    cases r.selection.pattern <;> rfl
  · have hlaid := f.of_applyTo (.commandLine r) base
    rw [show Layer.applyTo (.commandLine r) base = r.applyTo base from rfl] at hlaid
    rw [hlaid, hon]
    simp only [List.mem_cons, List.not_mem_nil, or_false] at hf
    rcases hf with rfl | rfl | rfl
    · exact (switchedOn_getD _ _).trans (Bool.true_or _)
    · exact (switchedOn_getD _ _).trans (Bool.true_or _)
    · exact (switchedOn_getD _ _).trans (Bool.true_or _)
  · have hsaid : x ∈ (EnvSettings.ofEnvironment env).scenarios.getD [] ↔
        ∃ names, (EnvSettings.ofEnvironment env).scenarios = some names ∧ x ∈ names := by
      cases (EnvSettings.ofEnvironment env).scenarios <;> simp
    rw [isActive, List.contains_iff_mem, hstack, Layer.mem_scenarios_stack, ← hsaid]
    cases p <;> cases file <;> simp [layers, Layer.scenarios, standard]

/-- A settings file with a profile. -/
def nightlyFiles : FileTree :=
  ⟨[(["c.json"], .file (Utf8.encode
    ("\x7b\"engine\":\x7b\"ranks\":2,\"keep_outputs\":true\x7d,\"profiles\":[" ++
      "\x7b\"name\":\"nightly\",\"scenarios\":[\"slow\"],\"timeout_secs\":600\x7d]\x7d").toList))],
    []⟩

/-- An environment that knows better about ranks. -/
def nightlyEnvironment : Environment :=
  ⟨[("SST_TEST_RANKS", " 3 "), ("SST_TEST_SCENARIOS", "slow, mpi")], none⟩

/-- A request that says nothing but that the first failure ends the run. -/
def failFastRequest : RunRequest :=
  ⟨⟨[], [], none, none, [], none, none, none⟩, none, none, none, none, false, none, none, false,
    true, "table"⟩

/-- The configuration below the request. -/
def nightlyBase : Config :=
  { standard with
    ranks := 3, timeoutSecs := 600, keepOutputs := true, scenarios := ["slow", "mpi"] }

theorem nightlyRun_layered :
    resolve nightlyFiles nightlyEnvironment (some "c.json") (some "nightly") = .ok nightlyBase ∧
    ∃ file p, HasFile nightlyFiles nightlyEnvironment (some "c.json") file ∧
      HasProfile file (some "nightly") p ∧
      ∀ {α : Type} (f : ConfigField α), f.of (failFastRequest.applyTo nightlyBase) =
        ((layers failFastRequest nightlyEnvironment p file).findSome? (Layer.setting? f)).getD
          (f.of standard) := by
  have h : resolve nightlyFiles nightlyEnvironment (some "c.json") (some "nightly") =
      .ok nightlyBase := by decide +kernel
  obtain ⟨file, p, hfile, hp, hfields, -⟩ := resolve_layered h failFastRequest
  exact ⟨h, file, p, hfile, hp, hfields⟩

end Config

end SuiteRunner
