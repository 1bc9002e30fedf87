import Mathlib.Data.List.Nodup
import SuiteRunner.Proofs.ConfigLayers

/-!
# What the check of a settings file ensures

A settings file is checked when it is loaded, and the configuration of a run is checked once all of
its layers are there.  The first check looks at the numbers of ranks, threads and jobs in every
section, the second one looks at the time limit and the simulator as well.  A file that passes the
first check can thus still give a configuration that nothing can run with.

* `SettingsFile.check_eq_ok` — what is known of a file that passes its check;
* `ConfigField.of_stack_ne` — a value that no layer says is not the value of the field;
* `SettingsFile.configured`, the configuration of a file and one of its profiles, and
  `SettingsFile.of_configured`, its fields;
* **`SettingsFile.check_configured`** — the second check fails for the time limit or the simulator,
  or it does not fail.
-/

namespace SuiteRunner

/-! ### Steps that give nothing -/

theorem then_eq_ok {ε : Type} {x y : Except ε Unit} :
    (x >>= fun _ => y) = .ok () ↔ x = .ok () ∧ y = .ok () := by
  rw [bind_eq_ok, Unique.exists_iff]

theorem forM_eq_ok {ε α : Type} {g : α → Except ε Unit} {xs : List α} :
    forM xs g = .ok () ↔ ∀ x ∈ xs, g x = .ok () := by
  induction xs with
  | nil => simp [pure, Except.pure]
  | cons x xs ih => rw [List.forM_cons, then_eq_ok, List.forall_mem_cons, ih]

/-! ### Each section of a file -/

/-- Settings that do not ask for none of something. -/
structure Settings.AsksForSome (s : Settings) : Prop where
  concurrency : s.concurrency ≠ some 0
  ranks : s.ranks ≠ some 0
  threads : s.threads ≠ some 0

namespace SettingsFile

variable {f : SettingsFile} {profile : Option Profile}

theorem checkSettings_eq_ok {origin : String} {s : Settings} :
    checkSettings origin s = .ok () ↔ s.AsksForSome := by
  rw [checkSettings]
  constructor
  · intro h
    split_ifs at h with hjobs hranks
    rw [Bool.or_eq_true, decide_eq_true_iff, decide_eq_true_iff, not_or] at hranks
    exact ⟨hjobs, hranks.1, hranks.2⟩
  · intro ⟨hjobs, hranks, hthreads⟩
    rw [if_neg hjobs, if_neg (by simp [hranks, hthreads])]

/-- Each name is compared with the names before it. -/
theorem checkNames_eq_ok {seen names : List String} :
    checkNames seen names = .ok () ↔ names.Nodup ∧ ∀ n ∈ names, n ∉ seen := by
  induction names generalizing seen with
  | nil => simp [checkNames]
  | cons n ns ih =>
    rw [checkNames]
    split
    · rename_i hseen
      rw [List.contains_iff_mem] at hseen
      refine ⟨fun h => (nomatch h), fun h => ?_⟩
      exact absurd hseen (h.2 n List.mem_cons_self)
    · rename_i hseen
      rw [List.contains_iff_mem] at hseen
      rw [ih, List.nodup_cons]
      constructor
      · intro ⟨hns, hnew⟩
        refine ⟨⟨fun hn => hnew n hn List.mem_cons_self, hns⟩, fun m hm => ?_⟩
        obtain rfl | hm := List.mem_cons.1 hm
        · exact hseen
        · exact fun h => hnew m hm (List.mem_cons_of_mem n h)
      · intro ⟨⟨hn, hns⟩, hnew⟩
        refine ⟨hns, fun m hm hmem => ?_⟩
        obtain rfl | hmem := List.mem_cons.1 hmem
        · exact hn hm
        · exact hnew m (List.mem_cons_of_mem n hm) hmem

/-- **The check of a file** looks at its version, at each section, and at the names. -/
theorem check_eq_ok :
    f.check = .ok () ↔
      f.version = currentVersion ∧ f.engine.AsksForSome ∧
        (∀ p ∈ f.profiles, p.settings.AsksForSome) ∧ (f.profiles.map Profile.name).Nodup := by
  have hsections : (forM f.profiles fun p => checkSettings p.name p.settings) = .ok () ↔
      ∀ p ∈ f.profiles, p.settings.AsksForSome := by
    simp only [forM_eq_ok, checkSettings_eq_ok]
  have hnames : checkNames [] (f.profiles.map Profile.name) = .ok () ↔
      (f.profiles.map Profile.name).Nodup := by
    simp [checkNames_eq_ok]
  by_cases hversion : f.version = currentVersion
  · simp [check, hversion, then_eq_ok, checkSettings_eq_ok, hsections, hnames]
  · simp [check, hversion, bind_eq_ok, throw, throwThe, MonadExceptOf.throw]

/-- Names that differ lead to all profiles. -/
theorem profile?_of_mem (hnames : (f.profiles.map Profile.name).Nodup) {p : Profile}
    (hp : p ∈ f.profiles) : f.profile? p.name = some p := by
  rw [profile?]
  cases hfound : f.profiles.find? (·.name == p.name) with
  | none => exact absurd (beq_self_eq_true p.name) (by simpa using List.find?_eq_none.1 hfound p hp)
  | some q =>
    have hq : q ∈ f.profiles := List.mem_of_find?_eq_some hfound
    have hname : q.name = p.name := by simpa using List.find?_some hfound
    rw [List.inj_on_of_nodup_map hnames hq hp hname]

end SettingsFile

/-! ### What no layer says -/

theorem ConfigField.of_stack_ne {α : Type} {field : ConfigField α} {bad : α} {layers : List Layer}
    {c : Config} (hlayers : ∀ l ∈ layers, l.setting? field ≠ some bad) (hc : field.of c ≠ bad) :
    field.of (Layer.stack layers c) ≠ bad := by
  rw [of_stack]
  cases hsaid : layers.findSome? (Layer.setting? field) with
  | none => exact hc
  | some value =>
    obtain ⟨l, hl, hvalue⟩ := List.exists_of_findSome?_eq_some hsaid
    intro hbad
    exact hlayers l hl (hvalue.trans (congrArg some hbad))

namespace SettingsFile

variable {f : SettingsFile} {profile : Option Profile}

/-! ### The configuration of a file -/

/-- The configuration that a file gives with one of its profiles, or with none. -/
def configured (f : SettingsFile) : Option Profile → Config
  | none => f.engine.applyTo .standard
  | some p => p.applyTo (f.engine.applyTo .standard)

/-- What a profile says about a field, or else the settings of every run. -/
def said {α : Type} (f : SettingsFile) (profile : Option Profile) (field : ConfigField α) :
    Option α :=
  (profile.bind fun p => p.settings.setting? field) <|> f.engine.setting? field

theorem configured_eq_stack :
    f.configured profile =
      Layer.stack ((profile.map Layer.profile).toList ++ [Layer.engine f.engine]) .standard := by
  cases profile <;> rfl

theorem of_configured {α : Type} (field : ConfigField α) :
    field.of (f.configured profile) = (f.said profile field).getD (field.of .standard) := by
  rw [configured_eq_stack, ConfigField.of_stack, said]
  cases profile with
  | none => simp [Layer.setting?]
  | some p => cases hp : p.settings.setting? field <;> simp [Layer.setting?, hp]

/-- The profiles of a file that passes its check are found by their names. -/
theorem fromFile_configured (hf : f.check = .ok ()) (hprofile : ∀ p ∈ profile, p ∈ f.profiles) :
    Config.fromFile (some f) (profile.map Profile.name) = .ok (f.configured profile) := by
  cases profile with
  | none => rfl
  | some p =>
    rw [Option.map_some, Config.fromFile,
      profile?_of_mem (check_eq_ok.1 hf).2.2.2 (hprofile p rfl)]
    rfl

/-- The numbers that the check of a file looks at are not zero in the end. -/
theorem configured_ne_zero (hf : f.check = .ok ()) (hprofile : ∀ p ∈ profile, p ∈ f.profiles)
    (field : ConfigField Nat) (hasks : ∀ s : Settings, s.AsksForSome → s.setting? field ≠ some 0)
    (hstandard : field.of .standard ≠ 0) : field.of (f.configured profile) ≠ 0 := by
  obtain ⟨-, hengine, hprofiles, -⟩ := check_eq_ok.1 hf
  rw [configured_eq_stack]
  refine ConfigField.of_stack_ne (fun l hl => ?_) hstandard
  obtain hl | hl := List.mem_append.1 hl
  · obtain ⟨p, hp, rfl⟩ := Option.map_eq_some_iff.1 (Option.mem_toList.1 hl)
    exact hasks p.settings (hprofiles p (hprofile p hp))
  · obtain rfl := List.mem_singleton.1 hl
    exact hasks f.engine hengine

/-- **A file that passes its check** is only refused for what the check does not look at: the time
limit or the simulator that the profile gives, or else the settings of every run. -/
theorem check_configured (hf : f.check = .ok ()) (hprofile : ∀ p ∈ profile, p ∈ f.profiles) :
    Config.fromFile (some f) (profile.map Profile.name) = .ok (f.configured profile) ∧
      (f.configured profile).check =
        if (f.said profile .timeoutSecs).getD 60 = 0 then .error .noTime
        else if Text.isBlank ((f.said profile .simulator).getD "sst").toList then
          .error .noSimulator
        else .ok () := by
  refine ⟨fromFile_configured hf hprofile, ?_⟩
  have hjobs : (f.configured profile).concurrency ≠ 0 :=
    configured_ne_zero hf hprofile .concurrency (fun s hs => hs.concurrency) (by decide)
  have hranks : (f.configured profile).ranks ≠ 0 :=
    configured_ne_zero hf hprofile .ranks (fun s hs => hs.ranks) (by decide)
  have hthreads : (f.configured profile).threads ≠ 0 :=
    configured_ne_zero hf hprofile .threads (fun s hs => hs.threads) (by decide)
  have hlimit : (f.configured profile).timeoutSecs = (f.said profile .timeoutSecs).getD 60 :=
    of_configured .timeoutSecs
  have hsimulator : (f.configured profile).simulator = (f.said profile .simulator).getD "sst" :=
    of_configured .simulator
  -- No settings give a time limit for all cases.
  have hoverride : (f.configured profile).timeoutOverride = none := by
    cases profile <;> rfl
  simp [Config.check, hjobs, hranks, hthreads, hoverride, hlimit, hsimulator]

/-- A file that leaves no time and has a profile for those who are patient, and another one that
names a blank simulator. -/
def hasty : SettingsFile where
  version := currentVersion
  engine := { Settings.none with timeoutSecs := some 0 }
  profiles := [
    { name := "patient", description := "", scenarios := []
      settings := { Settings.none with timeoutSecs := some 5 } },
    { name := "blank", description := "", scenarios := []
      settings := { Settings.none with timeoutSecs := some 5, simulator := some " " } }]

/-- The check of the configuration refuses files that their own check accepts. -/
theorem hasty_refused :
    hasty.check = .ok () ∧
      (hasty.configured none).check = .error .noTime ∧
      (hasty.profiles.map fun p => (hasty.configured (some p)).check) =
        [.ok (), .error .noSimulator] := by
  decide +kernel

/-- With its first profile the file is accepted. -/
theorem hasty_patient :
    hasty.check = .ok () ∧ (hasty.configured hasty.profiles.head?).check = .ok () := by
  have hcheck : hasty.check = .ok () := by decide +kernel
  have hmem : ∀ p ∈ hasty.profiles.head?, p ∈ hasty.profiles := fun p => List.mem_of_head?
  refine ⟨hcheck, ?_⟩
  rw [(check_configured hcheck hmem).2]
  decide +kernel

end SettingsFile

end SuiteRunner
