import Mathlib.Data.Option.Basic
import SuiteRunner.Execution.Runner

/-!
# The reasons why cases are skipped

A case can be run if nothing stands against it: no reason that its suite states, no scenario, no limit
of ranks or threads, no element that is not installed.  Otherwise the first obstacle in this order is
the reason why it is skipped, and among scenarios and elements it is the first one that is named.

* `IsLimit`, `Within` and `IsInstalled`, what the limits of a case are and which elements there are;
* `Runner.CanRun`, what a case asks for, and `Runner.SkippedFor`, the first obstacle as it is told;
* `skipReason?_eq_none` and `skipReason?_eq_some`, no obstacle and the first one;
* `Runner.Stricter`, a runner under which no less stands against a case;
* **`Runner.skipped_for_first_obstacle`** — cases are skipped exactly for the first obstacle, and what
  one runner skips every stricter one skips, too.
-/

namespace SuiteRunner

variable {install : Option SimulatorConf} {own shared : Option Nat} {most running : Nat}
  {element : String}

/-! ### Limits -/

/-- The limit that a case has: its own, or else the one that its suite shares. -/
def IsLimit (own shared : Option Nat) (most : Nat) : Prop :=
  own = some most ∨ own = none ∧ shared = some most

/-- The limit is not exceeded, if there is any. -/
def Within (own shared : Option Nat) (running : Nat) : Prop :=
  ∀ most, IsLimit own shared most → running ≤ most

theorem exceeded?_eq_some : exceeded? (own <|> shared) running = some most ↔
    IsLimit own shared most ∧ most < running := by
  rw [exceeded?, Option.filter_eq_some_iff, Option.orElse_eq_some, decide_eq_true_iff, IsLimit]

theorem exceeded?_eq_none : exceeded? (own <|> shared) running = none ↔
    Within own shared running := by
  simp only [exceeded?, Option.filter_eq_none_iff, Option.orElse_eq_some, decide_eq_true_iff,
    Nat.not_lt, Within, IsLimit]

theorem Within.mono {running' : Nat} (h : Within own shared running') (le : running ≤ running') :
    Within own shared running :=
  fun most hmost => Nat.le_trans le (h most hmost)

/-! ### Elements -/

/-- The element is a key in one of the two sections of a record that list elements. -/
def IsInstalled (install : Option SimulatorConf) (element : String) : Prop :=
  ∃ conf value, install = some conf ∧
    (conf.get? "SST_ELEMENT_SOURCE".toList element.toList = some value ∨
      conf.get? "SST_ELEMENT_TESTS".toList element.toList = some value)

theorem isRegistered_iff : isRegistered install element = true ↔ IsInstalled install element := by
  cases install with
  | none => simp [isRegistered, IsInstalled]
  | some conf =>
    simp only [isRegistered, IsInstalled, SimulatorConf.hasElement, SimulatorConf.elementSections,
      List.any_cons, List.any_nil, Bool.or_false, Bool.or_eq_true, Option.isSome_iff_exists,
      Option.some.injEq, exists_or, exists_and_left, exists_eq_left']

/-! ### Obstacles -/

namespace Runner

variable {r r' : Runner} {s : Suite} {c : TestCase} {text : String}

/-- Neither the suite nor a scenario speaks against a case. -/
structure IsWanted (r : Runner) (c : TestCase) : Prop where
  unstated : c.skip = none
  inactive : ∀ name ∈ c.skipOnScenarios, name ∉ r.config.scenarios

/-- The case is wanted, and its limits are not exceeded. -/
structure HasRoomFor (r : Runner) (s : Suite) (c : TestCase) : Prop extends r.IsWanted c where
  ranks : Within c.maxRanks s.defaults.maxRanks r.config.ranks
  threads : Within c.maxThreads s.defaults.maxThreads r.config.threads

/-- Nothing stands against a case. -/
structure CanRun (r : Runner) (s : Suite) (c : TestCase) : Prop extends r.HasRoomFor s c where
  installed : ∀ name ∈ s.requiresElements ++ c.requiresElements, IsInstalled r.install name

/-- The first obstacle to a case, as it is told. -/
inductive SkippedFor (r : Runner) (s : Suite) (c : TestCase) : String → Prop where
  | stated {reason : String} (stated : c.skip = some reason) : r.SkippedFor s c reason
  | scenario {before after : List String} {name : String} (unstated : c.skip = none)
      (names : c.skipOnScenarios = before ++ name :: after)
      (inactive : ∀ x ∈ before, x ∉ r.config.scenarios) (active : name ∈ r.config.scenarios) :
      r.SkippedFor s c ("skipped for scenario '" ++ name ++ "'")
  | ranks {most : Nat} (wanted : r.IsWanted c)
      (limit : IsLimit c.maxRanks s.defaults.maxRanks most) (exceeded : most < r.config.ranks) :
      r.SkippedFor s c ("requires at most " ++ toString most ++ " ranks (running with " ++
        toString r.config.ranks ++ ")")
  | threads {most : Nat} (wanted : r.IsWanted c)
      (ranks : Within c.maxRanks s.defaults.maxRanks r.config.ranks)
      (limit : IsLimit c.maxThreads s.defaults.maxThreads most)
      (exceeded : most < r.config.threads) :
      r.SkippedFor s c ("requires at most " ++ toString most ++ " threads (running with " ++
        toString r.config.threads ++ ")")
  | element {before after : List String} {name : String} (room : r.HasRoomFor s c)
      (names : s.requiresElements ++ c.requiresElements = before ++ name :: after)
      (installed : ∀ x ∈ before, IsInstalled r.install x)
      (missing : ¬ IsInstalled r.install name) :
      r.SkippedFor s c ("element '" ++ name ++ "' is not registered")

/-! ### The search for an obstacle -/

theorem find?_isActive_eq_none {names : List String} :
    names.find? r.config.isActive = none ↔ ∀ name ∈ names, name ∉ r.config.scenarios := by
  simp only [List.find?_eq_none, Config.isActive, List.contains_iff_mem]

theorem find?_isActive_eq_some {names : List String} {name : String} :
    names.find? r.config.isActive = some name ↔ name ∈ r.config.scenarios ∧
      ∃ before after, names = before ++ name :: after ∧ ∀ x ∈ before, x ∉ r.config.scenarios := by
  simp only [List.find?_eq_some_iff_append, Config.isActive, List.contains_iff_mem,
    Bool.not_eq_true', ← Bool.not_eq_true]

theorem find?_missing_eq_none {names : List String} :
    (names.find? fun e => !isRegistered r.install e) = none ↔
      ∀ name ∈ names, IsInstalled r.install name := by
  simp only [List.find?_eq_none, Bool.not_eq_true, Bool.not_eq_false', isRegistered_iff]

theorem find?_missing_eq_some {names : List String} {name : String} :
    (names.find? fun e => !isRegistered r.install e) = some name ↔ ¬ IsInstalled r.install name ∧
      ∃ before after, names = before ++ name :: after ∧ ∀ x ∈ before, IsInstalled r.install x := by
  simp only [List.find?_eq_some_iff_append, Bool.not_not, Bool.not_eq_true', ← Bool.not_eq_true,
    isRegistered_iff]

/-- There is no reason to skip a case exactly if it can be run. -/
theorem skipReason?_eq_none : skipReason? r.config r.install s c = none ↔ r.CanRun s c := by
  simp only [skipReason?, Option.orElse_eq_none, Option.map_eq_none_iff, Suite.maxRanksOf,
    Suite.maxThreadsOf, Suite.elementsOf, exceeded?_eq_none, find?_isActive_eq_none,
    find?_missing_eq_none]
  constructor
  · rintro ⟨unstated, inactive, ranks, threads, installed⟩
    exact ⟨⟨⟨unstated, inactive⟩, ranks, threads⟩, installed⟩
  · rintro ⟨⟨⟨unstated, inactive⟩, ranks, threads⟩, installed⟩
    exact ⟨unstated, inactive, ranks, threads, installed⟩

/-- **The reason why a case is skipped is the first obstacle.** -/
theorem skipReason?_eq_some :
    (skipReason? r.config r.install s c).map SkipReason.message = some text ↔
      r.SkippedFor s c text := by
  simp only [Option.map_eq_some_iff, skipReason?, Option.orElse_eq_some, Option.map_eq_none_iff,
    Suite.maxRanksOf, Suite.maxThreadsOf, Suite.elementsOf, exceeded?_eq_none, exceeded?_eq_some,
    find?_isActive_eq_none, find?_isActive_eq_some, find?_missing_eq_some]
  constructor
  · rintro ⟨reason, hreason, rfl⟩
    rcases hreason with ⟨told, stated, rfl⟩ | ⟨unstated, hreason⟩
    · exact .stated stated
    rcases hreason with ⟨name, ⟨active, before, after, names, inactive⟩, rfl⟩ | ⟨inactive, hreason⟩
    · exact .scenario unstated names inactive active
    rcases hreason with ⟨most, ⟨limit, exceeded⟩, rfl⟩ | ⟨ranks, hreason⟩
    · exact .ranks ⟨unstated, inactive⟩ limit exceeded
    rcases hreason with ⟨most, ⟨limit, exceeded⟩, rfl⟩ | ⟨threads, hreason⟩
    · exact .threads ⟨unstated, inactive⟩ ranks limit exceeded
    obtain ⟨name, ⟨missing, before, after, names, installed⟩, rfl⟩ := hreason
    exact .element ⟨⟨unstated, inactive⟩, ranks, threads⟩ names installed missing
  · intro h
    cases h with
    | stated stated => exact ⟨.stated text, .inl ⟨text, stated, rfl⟩, rfl⟩
    | scenario unstated names inactive active =>
      exact ⟨_, .inr ⟨unstated, .inl ⟨_, ⟨active, _, _, names, inactive⟩, rfl⟩⟩, rfl⟩
    | ranks wanted limit exceeded =>
      exact ⟨_, .inr ⟨wanted.unstated, .inr ⟨wanted.inactive,
        .inl ⟨_, ⟨limit, exceeded⟩, rfl⟩⟩⟩, rfl⟩
    | threads wanted ranks limit exceeded =>
      exact ⟨_, .inr ⟨wanted.unstated, .inr ⟨wanted.inactive, .inr ⟨ranks,
        .inl ⟨_, ⟨limit, exceeded⟩, rfl⟩⟩⟩⟩, rfl⟩
    | element room names installed missing =>
      exact ⟨_, .inr ⟨room.unstated, .inr ⟨room.inactive, .inr ⟨room.ranks, .inr ⟨room.threads,
        ⟨_, ⟨missing, _, _, names, installed⟩, rfl⟩⟩⟩⟩⟩, rfl⟩

/-! ### Two runners -/

/-- A runner that has no fewer ranks, threads and scenarios, and no element that the other one has
not. -/
structure Stricter (r' r : Runner) : Prop where
  ranks : r.config.ranks ≤ r'.config.ranks
  threads : r.config.threads ≤ r'.config.threads
  scenarios : ∀ name ∈ r.config.scenarios, name ∈ r'.config.scenarios
  installed : ∀ name, IsInstalled r'.install name → IsInstalled r.install name

/-- What can be run by the stricter one of two runners can be run by the other one. -/
theorem CanRun.of_stricter (h : r'.CanRun s c) (stricter : r'.Stricter r) : r.CanRun s c where
  unstated := h.unstated
  inactive := fun name hname hactive => h.inactive name hname (stricter.scenarios name hactive)
  ranks := h.ranks.mono stricter.ranks
  threads := h.threads.mono stricter.threads
  installed := fun name hname => stricter.installed name (h.installed name hname)

/-- **Cases are skipped for the first thing that stands against them**, for every runner, suite and
case: there is no reason exactly if the case can be run, and otherwise the first obstacle is told.
What one runner skips every stricter one skips, too. -/
theorem skipped_for_first_obstacle (r : Runner) (s : Suite) (c : TestCase) :
    (skipReason? r.config r.install s c = none ↔ r.CanRun s c) ∧
    (∀ text, (skipReason? r.config r.install s c).map SkipReason.message = some text ↔
      r.SkippedFor s c text) ∧
    ∀ r' : Runner, r'.Stricter r → skipReason? r.config r.install s c ≠ none →
      skipReason? r'.config r'.install s c ≠ none := by
  refine ⟨skipReason?_eq_none, fun text => skipReason?_eq_some, fun r' stricter skipped runs => ?_⟩
  exact skipped (skipReason?_eq_none.2 ((skipReason?_eq_none.1 runs).of_stricter stricter))

/-- A case with limits of its own, and with an element that it needs. -/
def narrowCase : TestCase :=
  { TestCase.plain "c" "m" with
    skipOnScenarios := ["nightly"], maxRanks := some 2, requiresElements := ["merlin"] }

def narrowSuite : Suite :=
  ⟨"demo", none, [], { CaseDefaults.none with maxRanks := some 8 }, [narrowCase], "demo.json",
    "default"⟩

/-- Four ranks, and one element that is installed. -/
def fourRanks : Runner :=
  ⟨{ Config.standard with ranks := 4 },
    some ⟨[⟨"SST_ELEMENT_SOURCE".toList, [("merlin".toList, [])]⟩]⟩⟩

/-- Eight ranks, an active scenario, and no elements. -/
def eightRanks : Runner :=
  ⟨{ Config.standard with ranks := 8, scenarios := ["nightly"] }, none⟩

theorem narrowCase_skipped :
    eightRanks.Stricter fourRanks ∧
    fourRanks.SkippedFor narrowSuite narrowCase
      "requires at most 2 ranks (running with 4)" ∧
    eightRanks.SkippedFor narrowSuite narrowCase "skipped for scenario 'nightly'" ∧
    skipReason? fourRanks.config fourRanks.install narrowSuite narrowCase ≠ none ∧
    skipReason? eightRanks.config eightRanks.install narrowSuite narrowCase ≠ none := by
  have stricter : eightRanks.Stricter fourRanks :=
    ⟨by decide, by decide, by decide, fun _ h => absurd h (by simp [IsInstalled, eightRanks])⟩
  have skipped : skipReason? fourRanks.config fourRanks.install narrowSuite narrowCase ≠ none := by
    decide
  obtain ⟨-, told, kept⟩ := skipped_for_first_obstacle fourRanks narrowSuite narrowCase
  obtain ⟨-, told', -⟩ := skipped_for_first_obstacle eightRanks narrowSuite narrowCase
  exact ⟨stricter, (told _).1 (by decide +kernel), (told' _).1 (by decide +kernel), skipped,
    kept eightRanks stricter skipped⟩

end Runner

end SuiteRunner
