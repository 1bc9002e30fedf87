import Mathlib.Data.List.Basic
import SuiteRunner.Proofs.ConfigLayers

/-!
# Scenarios that layers add

A profile and the environment activate the scenarios that they name, each one once, and whoever lays
them over a configuration a second time changes nothing.  The command line does not look at what is
active already.

* `AddsOnce`, scenarios that are added once, in the order in which they are named first;
* `AddsOnce.addScenario` — the step: one more scenario is named;
* **`addsOnce_foldl`** — the run: a list of scenarios is named, with any repetitions;
* `Layer.applyTo_twice_iff` — a layer that is laid over a configuration twice can change nothing but
  the scenarios;
* **`scenarios_added_once`** — which layers add scenarios once;
* `repeatedScenario_added_twice`, a scenario that is named twice on the command line.
-/

namespace SuiteRunner

/-! ### Scenarios that are added once -/

section AddsOnce

variable {before named after : List String} {x : String}

/-- The list `after` has the scenarios of `before` at its front, and behind them those that are
`named` and were not there, in the order in which they are named first.  So each of them is there
once. -/
def AddsOnce (before named after : List String) : Prop :=
  ∃ new, after = before ++ new ∧ (∀ x, x ∈ new ↔ x ∈ named ∧ x ∉ before) ∧
    new.Pairwise fun x y => named.idxOf x < named.idxOf y

/-- Scenarios that are named first at different places differ. -/
theorem nodup_of_idxOf {new : List String}
    (h : new.Pairwise fun x y => named.idxOf x < named.idxOf y) : new.Nodup := by
  refine h.imp ?_
  intro x y hlt heq
  rw [heq] at hlt
  exact Nat.lt_irrefl _ hlt

/-- What is added once repeats nothing. -/
theorem AddsOnce.nodup (h : AddsOnce before named after) (nodup : before.Nodup) : after.Nodup := by
  obtain ⟨new, rfl, hmem, horder⟩ := h
  refine List.nodup_append.2 ⟨nodup, nodup_of_idxOf horder, ?_⟩
  intro x hx y hy heq
  exact ((hmem y).1 hy).2 (heq ▸ hx)

/-- There is one way to add scenarios once. -/
theorem AddsOnce.unique {after' : List String} (h : AddsOnce before named after)
    (h' : AddsOnce before named after') : after = after' := by
  obtain ⟨new, rfl, hmem, horder⟩ := h
  obtain ⟨new', rfl, hmem', horder'⟩ := h'
  have hnew : new = new' := by
    refine List.Perm.eq_of_pairwise ?_ horder horder' ?_
    · intro x y _ _ hxy hyx
      exact absurd hxy (Nat.lt_asymm hyx)
    · refine (List.perm_ext_iff_of_nodup (nodup_of_idxOf horder) (nodup_of_idxOf horder')).2 ?_
      intro x
      exact (hmem x).trans (hmem' x).symm
  rw [hnew]

/-- **The step**: one more scenario is named. -/
theorem AddsOnce.addScenario (h : AddsOnce before named after) (x : String) :
    AddsOnce before (named ++ [x]) (Config.addScenario after x) := by
  obtain ⟨new, rfl, hmem, horder⟩ := h
  -- Those that were named before are named first where they were.
  have hplace : ∀ y ∈ new, (named ++ [x]).idxOf y = named.idxOf y :=
    fun y hy => List.idxOf_append_of_mem ((hmem y).1 hy).1
  have horder' : new.Pairwise fun y z => (named ++ [x]).idxOf y < (named ++ [x]).idxOf z := by
    refine List.Pairwise.imp_of_mem (fun hy hz hlt => ?_) horder
    rw [hplace _ hy, hplace _ hz]
    exact hlt
  rw [Config.addScenario]
  split
  · rename_i hactive
    rw [List.contains_iff_mem, List.mem_append, hmem] at hactive
    refine ⟨new, rfl, fun y => ?_, horder'⟩
    rw [hmem, List.mem_append, List.mem_singleton]
    constructor
    · intro hy
      exact ⟨.inl hy.1, hy.2⟩
    · intro hy
      rcases hy with ⟨hnamed | rfl, hnot⟩
      · exact ⟨hnamed, hnot⟩
      · exact hactive.resolve_left hnot
  · rename_i hactive
    rw [List.contains_iff_mem, List.mem_append, hmem, not_or] at hactive
    obtain ⟨hbefore, hnamed⟩ := hactive
    have hfresh : x ∉ named := fun hx => hnamed ⟨hx, hbefore⟩
    refine ⟨new ++ [x], List.append_assoc _ _ _, fun y => ?_, ?_⟩
    · rw [List.mem_append, List.mem_append, List.mem_singleton, hmem, or_and_right]
      refine or_congr Iff.rfl ⟨fun hy => ⟨hy, hy ▸ hbefore⟩, fun hy => hy.1⟩
    · refine List.pairwise_append.2 ⟨horder', List.pairwise_singleton _ _, fun y hy z hz => ?_⟩
      rw [List.mem_singleton.1 hz, hplace y hy, List.idxOf_append_of_notMem hfresh]
      exact Nat.lt_of_lt_of_le (List.idxOf_lt_length_of_mem ((hmem y).1 hy).1)
        (Nat.le_add_right _ _)

/-- **The run**: scenarios that are named one after another are added once. -/
theorem addsOnce_foldl (before named : List String) :
    AddsOnce before named (named.foldl Config.addScenario before) := by
  induction named using List.reverseRecOn with
  | nil => exact ⟨[], (List.append_nil _).symm, by simp, .nil⟩
  | append_singleton named x ih =>
    rw [List.foldl_append]
    exact ih.addScenario x

/-- Scenarios that were there are not added. -/
theorem AddsOnce.eq_of_subset (h : AddsOnce before named after) (active : named ⊆ before) :
    after = before := by
  obtain ⟨new, rfl, hmem, -⟩ := h
  have hnew : new = [] :=
    List.eq_nil_iff_forall_not_mem.2 fun x hx => ((hmem x).1 hx).2 (active ((hmem x).1 hx).1)
  rw [hnew, List.append_nil]

/-- Scenarios that are put behind those that were there are added once exactly if none is there
twice then. -/
theorem addsOnce_append_iff (nodup : before.Nodup) :
    AddsOnce before named (before ++ named) ↔ (before ++ named).Nodup := by
  constructor
  · intro h
    exact h.nodup nodup
  · intro h
    obtain ⟨-, hnamed, hapart⟩ := List.nodup_append.1 h
    refine ⟨named, rfl, fun x => ?_, ?_⟩
    · exact ⟨fun hx => ⟨hx, fun hbefore => hapart x hbefore x hx rfl⟩, fun hx => hx.1⟩
    · refine List.pairwise_iff_getElem.2 fun i j hi hj hij => ?_
      rw [hnamed.idxOf_getElem i hi, hnamed.idxOf_getElem j hj]
      exact hij

end AddsOnce

/-! ### Layers that are laid over twice -/

/-- Configurations with the same fields and the same scenarios are the same. -/
theorem Config.eq_of_fields {c d : Config}
    (fields : ∀ {α : Type} (f : ConfigField α), f.of c = f.of d)
    (scenarios : c.scenarios = d.scenarios) : c = d := by
  cases c
  cases d
  rw [Config.mk.injEq]
  exact ⟨fields .simulator, fields .launcher, fields .oversubscribe, fields .ranks, fields .threads,
    fields .concurrency, fields .timeoutSecs, fields .timeoutOverride, scenarios,
    fields .outputDir, fields .reportDir, fields .keepOutputs, fields .failFast, fields .pattern,
    fields .testType, fields .searchPaths, fields .installFile⟩

/-- **A layer that is laid over a configuration twice** can change nothing but the scenarios. -/
theorem Layer.applyTo_twice_iff (l : Layer) (c : Config) :
    l.applyTo (l.applyTo c) = l.applyTo c ↔
      (l.applyTo (l.applyTo c)).scenarios = (l.applyTo c).scenarios := by
  constructor
  · intro h
    rw [h]
  · intro h
    refine Config.eq_of_fields (fun f => ?_) h
    rw [f.of_applyTo, f.of_applyTo]
    cases l.setting? f <;> rfl

/-- A request that says nothing but which cases are asked for. -/
def CaseSelection.only (s : CaseSelection) : RunRequest :=
  ⟨s, none, none, none, none, false, none, none, false, false, "table"⟩

theorem CaseSelection.applyTo_only (s : CaseSelection) (c : Config) :
    s.only.applyTo c = s.applyTo c := by
  simp [only, RunRequest.applyTo, applyTo]

/-! ### Layers that add scenarios once -/

/-- The layer `lay`, laid over the configuration `c`, adds the scenarios that are `named` in it
once. -/
structure AddsScenariosOnce (lay : Config → Config) (named : List String) (c : Config) : Prop where
  /-- The scenarios that were there stay at the front, and each new one comes behind them where it is
  named first. -/
  added : ∀ after, AddsOnce c.scenarios named after ↔ after = (lay c).scenarios
  /-- No scenario is there twice. -/
  nodup : (lay c).scenarios.Nodup
  /-- Whoever lays it over the configuration again changes nothing. -/
  again : lay (lay c) = lay c

/-- A layer adds scenarios once if it activates them. -/
theorem addsScenariosOnce_of_activates {l : Layer} {c : Config} (nodup : c.scenarios.Nodup)
    (activates : ∀ c, (l.applyTo c).scenarios = l.scenarios.foldl Config.addScenario c.scenarios) :
    AddsScenariosOnce l.applyTo l.scenarios c := by
  have hadded : AddsOnce c.scenarios l.scenarios (l.applyTo c).scenarios := by
    rw [activates]
    exact addsOnce_foldl _ _
  refine ⟨fun after => ⟨fun h => h.unique hadded, fun h => h ▸ hadded⟩, hadded.nodup nodup, ?_⟩
  rw [l.applyTo_twice_iff, activates (l.applyTo c)]
  refine (addsOnce_foldl _ _).eq_of_subset fun x hx => ?_
  exact Layer.mem_scenarios_applyTo.2 (.inl hx)

/-- **Which layers add scenarios once.**  A profile and the environment do: the scenarios that were
active stay at the front, the new ones come in the order in which they are named first, none is
there twice, and a second time changes nothing.  The command line puts its scenarios behind those
that were active as they are given.  So it adds them once exactly if none is given twice or was
active, and only a command line without scenarios can be laid over twice. -/
theorem scenarios_added_once {c : Config} (nodup : c.scenarios.Nodup) :
    (∀ p : Profile, AddsScenariosOnce p.applyTo p.scenarios c) ∧
    (∀ e : EnvSettings, AddsScenariosOnce e.applyTo (e.scenarios.getD []) c) ∧
    ∀ s : CaseSelection,
      (s.applyTo c).scenarios = c.scenarios ++ s.scenarios ∧
      ((s.applyTo c).scenarios.Nodup ↔
        s.scenarios.Nodup ∧ ∀ x ∈ s.scenarios, x ∉ c.scenarios) ∧
      (AddsOnce c.scenarios s.scenarios (s.applyTo c).scenarios ↔
        (s.applyTo c).scenarios.Nodup) ∧
      (s.applyTo (s.applyTo c) = s.applyTo c ↔ s.scenarios = []) := by
  refine ⟨fun p => ?_, fun e => ?_, fun s => ?_⟩
  · exact @addsScenariosOnce_of_activates (.profile p) c nodup fun _ => rfl
  · exact @addsScenariosOnce_of_activates (.environment e) c nodup fun _ => rfl
  · have hscenarios : ∀ c, (s.applyTo c).scenarios = c.scenarios ++ s.scenarios := fun _ => rfl
    refine ⟨hscenarios c, ?_, addsOnce_append_iff nodup, ?_⟩
    · rw [hscenarios, List.nodup_append]
      constructor
      · intro h
        exact ⟨h.2.1, fun x hx hbefore => h.2.2 x hbefore x hx rfl⟩
      · intro h
        exact ⟨nodup, h.1, fun x hbefore y hy heq => h.2 y hy (heq ▸ hbefore)⟩
    · have htwice := (Layer.commandLine s.only).applyTo_twice_iff c
      simp only [Layer.applyTo, CaseSelection.applyTo_only] at htwice
      rw [htwice, hscenarios (s.applyTo c), List.append_right_eq_self]

/-- A configuration with an active scenario. -/
def slowConfig : Config := { Config.standard with scenarios := ["slow"] }

/-- A profile that names the active scenario, and others twice. -/
def repeatingProfile : Profile := ⟨"nightly", "", ["mpi", "slow", "mpi", "fast", "slow"], .none⟩

theorem repeatingProfile_added_once :
    slowConfig.scenarios.Nodup ∧
    AddsScenariosOnce repeatingProfile.applyTo repeatingProfile.scenarios slowConfig ∧
    (repeatingProfile.applyTo slowConfig).scenarios = ["slow", "mpi", "fast"] := by
  have nodup : slowConfig.scenarios.Nodup := by decide
  exact ⟨nodup, (scenarios_added_once nodup).1 repeatingProfile, by decide⟩

/-- A command line that names the active scenario. -/
def repeatedSelection : CaseSelection := ⟨[], [], none, none, ["slow"], none, none, none⟩

/-- The scenario is active twice then, and a second time adds it once more. -/
theorem repeatedScenario_added_twice :
    slowConfig.scenarios.Nodup ∧
    (repeatedSelection.applyTo slowConfig).scenarios = ["slow", "slow"] ∧
    ¬ (repeatedSelection.applyTo slowConfig).scenarios.Nodup ∧
    repeatedSelection.applyTo (repeatedSelection.applyTo slowConfig) ≠
      repeatedSelection.applyTo slowConfig := by
  decide

end SuiteRunner
