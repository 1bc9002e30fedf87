import SuiteRunner.Proofs.SearchAgain

/-!
# The suites that are loaded

Suites are loaded one after the other.  What a pattern does not describe is left out along the way, as
are suites with a name that has been there before, and in the end the suites are sorted.  All this can
be told apart: a pattern keeps a part of what is found without it, and where no two files have suites
of one name it does not matter in which order they come, nor how often.

* `Glob.Describes`, the cases of a pattern, and `onlyDescribed`, what it keeps of some suites;
* `eq_of_pairwise_name` — suites that ascend by their names are known by their members;
* `loadSuites_some` — a pattern can be applied after loading;
* `pairwise_and_cases_of_discover` — what a search finds ascends by name and has cases;
* **`discover_by_pattern`** — and after the search;
* `NamesApart`, files with suites of different names, and `isFirst_iff_of_namesApart`;
* **`discover_given_in_any_order`** — such files give the same suites in every order.
-/

namespace SuiteRunner

variable {files : FileTree} {paths : List String} {g : Glob} {s : Suite}
  {suites suites' : List Suite}

/-! ### What a pattern keeps -/

/-- The pattern describes a case by its name, or by the names of suite and case with a dot in
between. -/
def Glob.Describes (g : Glob) (suite case : String) : Prop :=
  g.matches case.toList = true ∨ g.matches (suite ++ "." ++ case).toList = true

instance (g : Glob) (suite case : String) : Decidable (g.Describes suite case) :=
  inferInstanceAs (Decidable (_ ∨ _))

/-- The suite with those of its cases that the pattern describes, in their order. -/
def Suite.described (g : Glob) (s : Suite) : Suite :=
  { s with cases := s.cases.filter fun c => g.Describes s.name c.name }

/-- The suites with the cases that the pattern describes; those without any are dropped. -/
def onlyDescribed (g : Glob) (suites : List Suite) : List Suite :=
  (suites.map (Suite.described g)).filter fun s => s.cases ≠ []

theorem selects_some (suite : String) (c : TestCase) :
    selects (some g) suite c = decide (g.Describes suite c.name) := by
  rw [Bool.eq_iff_iff, decide_eq_true_iff, selects, Bool.or_eq_true]
  rfl

theorem onlyDescribed_cons : onlyDescribed g (s :: suites) =
    if (s.described g).cases = [] then onlyDescribed g suites
    else s.described g :: onlyDescribed g suites := by
  rw [onlyDescribed, List.map_cons, List.filter_cons]
  by_cases h : (s.described g).cases = []
  · simp [h, onlyDescribed]
  · simp [h, onlyDescribed]

theorem mem_onlyDescribed :
    s ∈ onlyDescribed g suites ↔ s.cases ≠ [] ∧ ∃ u ∈ suites, u.described g = s := by
  rw [onlyDescribed, List.mem_filter, decide_eq_true_iff, List.mem_map, and_comm]

theorem pairwise_onlyDescribed (h : suites.Pairwise fun a b => a.name < b.name) :
    (onlyDescribed g suites).Pairwise fun a b => a.name < b.name :=
  (h.map (Suite.described g) fun _ _ hlt => hlt).filter _

theorem nodup_onlyDescribed (h : (suites.map Suite.name).Nodup) :
    ((onlyDescribed g suites).map Suite.name).Nodup := by
  refine h.sublist ?_
  have hnames : (suites.map (Suite.described g)).map Suite.name = suites.map Suite.name := by
    rw [List.map_map]
    rfl
  exact hnames ▸ List.filter_sublist.map Suite.name

/-! ### Sorted suites -/

/-- **Suites that ascend by their names are known by their members.** -/
theorem eq_of_pairwise_name (h : suites.Pairwise fun a b => a.name < b.name)
    (h' : suites'.Pairwise fun a b => a.name < b.name) (mem : ∀ s, s ∈ suites ↔ s ∈ suites') :
    suites = suites' := by
  have : Std.Irrefl fun a b : Suite => a.name < b.name := ⟨fun a => String.lt_irrefl a.name⟩
  have : Std.Antisymm fun a b : Suite => a.name < b.name :=
    ⟨fun _ _ hlt hgt => absurd hgt (String.lt_asymm hlt)⟩
  exact List.Subset.antisymm_of_pairwise h h' (fun s => (mem s).1) fun s => (mem s).2

theorem mem_sortSuites : s ∈ sortSuites suites ↔ s ∈ suites :=
  (List.mergeSort_perm suites _).mem_iff

/-- Suites with different names can be sorted before a pattern is applied, and after it. -/
theorem sortSuites_onlyDescribed (h : (suites.map Suite.name).Nodup) :
    sortSuites (onlyDescribed g suites) = onlyDescribed g (sortSuites suites) := by
  refine eq_of_pairwise_name (pairwise_sortSuites (nodup_onlyDescribed h))
    (pairwise_onlyDescribed (pairwise_sortSuites h)) fun s => ?_
  simp only [mem_sortSuites, mem_onlyDescribed]

/-! ### Patterns -/

/-- **A pattern can be applied after loading**: which suites count, and what is at fault, does not
depend on it. -/
theorem loadSuites_some (files : FileTree) (g : Glob) (seen paths : List String) :
    loadSuites files (some g) seen paths =
      (loadSuites files none seen paths).map (onlyDescribed g) := by
  induction paths generalizing seen with
  | nil => rfl
  | cons path paths ih =>
    rw [loadSuites, loadSuites]
    cases hload : loadSuite files path with
    | error fault => rfl
    | ok s =>
      have hall : s.cases.filter (selects none s.name) = s.cases := by simp [selects]
      have hsome : s.cases.filter (selects (some g) s.name) = (s.described g).cases := by
        rw [funext (selects_some s.name)]
        rfl
      simp only [hall, hsome, ih, List.isEmpty_iff]
      -- The name counts from here on, whether or not the pattern leaves anything of the suite.
      by_cases hseen : seen.contains s.name = true
      · rw [if_pos hseen, if_pos hseen]
      · rw [if_neg hseen, if_neg hseen]
        by_cases hcases : s.cases = []
        · have hnone : (s.described g).cases = [] := by simp [Suite.described, hcases]
          rw [if_pos hnone, if_pos hcases]
        · rw [if_neg hcases]
          cases loadSuites files none (s.name :: seen) paths with
          | error fault => exact ite_self _
          | ok rest =>
            simp only [Except.map, onlyDescribed_cons]
            split
            · rfl
            · rfl

/-- What has been loaded has different names. -/
theorem nodup_of_loadSuites (h : loadSuites files none [] paths = .ok suites) :
    (suites.map Suite.name).Nodup := by
  obtain ⟨_, hsuites, hnodup, -⟩ := loadSuites_spec (loads_of_loadSuites h) []
  cases h.symm.trans hsuites
  exact hnodup

/-- What has been loaded, by a pattern or without one, has different names, and every suite has a
case. -/
theorem nodup_and_cases_of_loadSuites {glob : Option Glob}
    (h : loadSuites files glob [] paths = .ok suites) :
    (suites.map Suite.name).Nodup ∧ ∀ s ∈ suites, s.cases ≠ [] := by
  cases glob with
  | none =>
    obtain ⟨_, hsuites, -, hmem⟩ := loadSuites_spec (loads_of_loadSuites h) []
    cases h.symm.trans hsuites
    exact ⟨nodup_of_loadSuites h, fun s hs => ((hmem s).1 hs).1⟩
  | some g =>
    rw [loadSuites_some] at h
    obtain ⟨all, hall, rfl⟩ := map_eq_ok.1 h
    exact ⟨nodup_onlyDescribed (nodup_of_loadSuites hall), fun s hs => (mem_onlyDescribed.1 hs).1⟩

/-- **The suites that a search finds ascend by their names**, and every suite has a case. -/
theorem pairwise_and_cases_of_discover {selection : Selection} {given : Option (List String)}
    (h : discover files selection given = .ok suites) :
    (suites.Pairwise fun a b => a.name < b.name) ∧ ∀ s ∈ suites, s.cases ≠ [] := by
  obtain ⟨glob, -, paths, -, loaded, hloaded, rfl⟩ := discover_eq_ok.1 h
  obtain ⟨hnodup, hcases⟩ := nodup_and_cases_of_loadSuites hloaded
  exact ⟨pairwise_sortSuites hnodup, fun s hs => hcases s (mem_sortSuites.1 hs)⟩

/-- **A pattern can be applied after loading and sorting.** -/
theorem sorted_loadSuites_some (files : FileTree) (g : Glob) (paths : List String) :
    (loadSuites files (some g) [] paths).map sortSuites =
      ((loadSuites files none [] paths).map sortSuites).map (onlyDescribed g) := by
  rw [loadSuites_some]
  cases hload : loadSuites files none [] paths with
  | error fault => rfl
  | ok suites =>
    simp only [Except.map]
    rw [sortSuites_onlyDescribed (nodup_of_loadSuites hload)]

/-- What a search does when its pattern has been read. -/
theorem discover_of_glob {selection : Selection} {given : Option (List String)}
    {glob : Option Glob} (h : selection.glob = .ok glob) :
    discover files selection given = pathsToLoad files selection given >>= fun paths =>
      (loadSuites files glob [] paths).map sortSuites := by
  rw [discover_eq, h]
  rfl

theorem glob_of_none {selection : Selection} :
    ({ selection with pattern := none } : Selection).glob = .ok none := rfl

theorem glob_of_ofText? {selection : Selection} {pattern : String}
    (h : Glob.ofText? pattern.toList = some g) :
    ({ selection with pattern := some pattern } : Selection).glob = .ok (some g) := by
  rw [Selection.glob]
  simp only [h]

/-- **A search by a pattern finds what the pattern keeps of a search without it**, among files that
are given and among those that are selected.  It fails where the search without it fails, and in the
same way. -/
theorem discover_by_pattern (files : FileTree) (selection : Selection)
    (given : Option (List String)) {pattern : String}
    (hpattern : Glob.ofText? pattern.toList = some g) :
    discover files { selection with pattern := some pattern } given =
      (discover files { selection with pattern := none } given).map (onlyDescribed g) := by
  rw [discover_of_glob (glob_of_ofText? hpattern), discover_of_glob glob_of_none]
  -- The paths are looked for without the pattern.
  have hpaths : pathsToLoad files { selection with pattern := some pattern } given =
      pathsToLoad files { selection with pattern := none } given := by
    cases given <;> rfl
  rw [hpaths]
  cases pathsToLoad files { selection with pattern := none } given with
  | error fault => rfl
  | ok paths => exact sorted_loadSuites_some files g paths

/-- Two directories with suites of one name, and another suite in the second one. -/
def rivalTree : FileTree where
  entries :=
    let one := "\x7b\"name\":\"one\",\"model\":\"m\"\x7d"
    let two := "\x7b\"name\":\"two\",\"model\":\"m\"\x7d"
    let content (cases : String) := Utf8.encode ("\x7b\"tests\":[" ++ cases ++ "]\x7d").toList
    [(["a"], .directory), (["b"], .directory),
      (["a", "testsuite_x_same.json"], .file (content one)),
      (["b", "testsuite_x_same.json"], .file (content two)),
      (["b", "testsuite_x_more.json"], .file (content (one ++ "," ++ two)))]
  working := []

/-- The first suite counts although the pattern leaves nothing of it. -/
theorem rivals_by_pattern :
    ∃ g, Glob.ofText? "*.two".toList = some g ∧
      discover rivalTree ⟨[], "x", some "*.two"⟩ (some ["a/testsuite_x_same.json",
          "b/testsuite_x_same.json", "b/testsuite_x_more.json"]) =
        (discover rivalTree ⟨[], "x", none⟩ (some ["a/testsuite_x_same.json",
          "b/testsuite_x_same.json", "b/testsuite_x_more.json"])).map (onlyDescribed g) ∧
      ((discover rivalTree ⟨[], "x", some "*.two"⟩ (some ["a/testsuite_x_same.json",
          "b/testsuite_x_same.json", "b/testsuite_x_more.json"])).toOption.map fun suites =>
        suites.map fun s => (s.path, s.cases.map TestCase.name)) =
          some [("b/testsuite_x_more.json", ["two"])] := by
  obtain ⟨g, hg⟩ := Option.isSome_iff_exists.1
    (by decide +kernel : (Glob.ofText? "*.two".toList).isSome = true)
  exact ⟨g, hg, discover_by_pattern rivalTree ⟨[], "x", none⟩ _ hg, by decide +kernel⟩

/-! ### Given files -/

/-- The suites of different files have different names. -/
def NamesApart (files : FileTree) (paths : List String) : Prop :=
  ∀ p ∈ paths, ∀ q ∈ paths, ∀ s u, loadSuite files p = .ok s → loadSuite files q = .ok u →
    s.name = u.name → p = q

/-- Where names are apart, every suite is the first one of its name. -/
theorem isFirst_iff_of_namesApart (apart : NamesApart files paths) :
    IsFirst files paths s ↔ ∃ p ∈ paths, loadSuite files p = .ok s := by
  constructor
  · rintro ⟨before, p, after, rfl, hload, -⟩
    exact ⟨p, by simp, hload⟩
  · rintro ⟨p, hp, hload⟩
    obtain ⟨before, after, rfl, hbefore⟩ := List.eq_append_cons_of_mem hp
    refine ⟨before, p, after, rfl, hload, fun q hq u hu hname => hbefore ?_⟩
    have hqp : q = p := apart q (by simp [hq]) p hp u s hu hload hname
    exact hqp ▸ hq

/-- The suites of files with names apart, sorted. -/
theorem exists_sorted_of_namesApart (loads : ∀ p ∈ paths, ∃ s, loadSuite files p = .ok s)
    (apart : NamesApart files paths) :
    ∃ suites, (loadSuites files none [] paths).map sortSuites = .ok suites ∧
      suites.Pairwise (fun a b => a.name < b.name) ∧
      ∀ s, s ∈ suites ↔ s.cases ≠ [] ∧ ∃ p ∈ paths, loadSuite files p = .ok s := by
  obtain ⟨loaded, hloaded, hnodup, hmem⟩ := loadSuites_spec loads []
  refine ⟨sortSuites loaded, by rw [hloaded]; rfl, pairwise_sortSuites hnodup, fun s => ?_⟩
  rw [mem_sortSuites, hmem, isFirst_iff_of_namesApart apart]
  simp only [List.not_mem_nil, not_false_eq_true, true_and]

/-- **Files that are given can come in any order, and more than once**, if they all load and their
suites have different names: what is found are their suites that have cases, by name, or what a
pattern keeps of them. -/
theorem discover_given_in_any_order (selection : Selection)
    (loads : ∀ p ∈ paths, ∃ s, loadSuite files p = .ok s) (apart : NamesApart files paths) :
    ∃ suites, suites.Pairwise (fun a b => a.name < b.name) ∧
      (∀ s, s ∈ suites ↔ s.cases ≠ [] ∧ ∃ p ∈ paths, loadSuite files p = .ok s) ∧
      ∀ paths', (∀ p, p ∈ paths' ↔ p ∈ paths) →
        discover files { selection with pattern := none } (some paths') = .ok suites ∧
        ∀ pattern g, Glob.ofText? pattern.toList = some g →
          discover files { selection with pattern := some pattern } (some paths') =
            .ok (onlyDescribed g suites) := by
  obtain ⟨suites, -, hsorted, hmem⟩ := exists_sorted_of_namesApart loads apart
  refine ⟨suites, hsorted, hmem, fun paths' hsame => ?_⟩
  have loads' : ∀ p ∈ paths', ∃ s, loadSuite files p = .ok s := fun p hp => loads p ((hsame p).1 hp)
  have apart' : NamesApart files paths' := fun p hp q hq =>
    apart p ((hsame p).1 hp) q ((hsame q).1 hq)
  obtain ⟨suites', hload, hsorted', hmem'⟩ := exists_sorted_of_namesApart loads' apart'
  have heq : suites' = suites := by
    refine eq_of_pairwise_name hsorted' hsorted fun s => ?_
    simp only [hmem, hmem', hsame]
  rw [heq] at hload
  refine ⟨?_, fun pattern g hpattern => ?_⟩
  · rw [discover_of_glob glob_of_none]
    exact hload
  · rw [discover_of_glob (glob_of_ofText? hpattern)]
    show (loadSuites files (some g) [] paths').map sortSuites = _
    rw [sorted_loadSuites_some, hload]
    rfl

theorem rivals_in_any_order :
    (∀ p ∈ ["a/testsuite_x_same.json", "b/testsuite_x_more.json"],
      ∃ s, loadSuite rivalTree p = .ok s) ∧
    NamesApart rivalTree ["a/testsuite_x_same.json", "b/testsuite_x_more.json"] ∧
    ∃ suites,
      discover rivalTree ⟨[], "x", none⟩
        (some ["a/testsuite_x_same.json", "b/testsuite_x_more.json"]) = .ok suites ∧
      discover rivalTree ⟨[], "x", none⟩ (some ["b/testsuite_x_more.json",
        "a/testsuite_x_same.json", "b/testsuite_x_more.json"]) = .ok suites ∧
      ∃ more ∈ suites, ∃ same ∈ suites, more.name = "more" ∧ same.name = "same" := by
  have hevaluate : (loadSuite rivalTree "a/testsuite_x_same.json").toOption.map (fun s =>
        (s.name, s.cases.isEmpty)) = some ("same", false) ∧
      (loadSuite rivalTree "b/testsuite_x_more.json").toOption.map (fun s =>
        (s.name, s.cases.isEmpty)) = some ("more", false) := by decide +kernel
  obtain ⟨same, hsame, hsame'⟩ := Option.map_eq_some_iff.1 hevaluate.1
  obtain ⟨more, hmore, hmore'⟩ := Option.map_eq_some_iff.1 hevaluate.2
  rw [toOption_eq_some] at hsame hmore
  rw [Prod.mk.injEq, List.isEmpty_eq_false_iff] at hsame' hmore'
  have loads : ∀ p ∈ ["a/testsuite_x_same.json", "b/testsuite_x_more.json"],
      ∃ s, loadSuite rivalTree p = .ok s := by
    simp [hsame, hmore]
  have apart : NamesApart rivalTree ["a/testsuite_x_same.json", "b/testsuite_x_more.json"] := by
    simp [NamesApart, hsame, hmore, hsame', hmore']
  obtain ⟨suites, -, hmem, hany⟩ := discover_given_in_any_order ⟨[], "x", none⟩ loads apart
  refine ⟨loads, apart, suites, (hany _ fun _ => Iff.rfl).1, (hany _ fun p => ?_).1,
    more, (hmem more).2 ⟨hmore'.2, _, by simp, hmore⟩,
    same, (hmem same).2 ⟨hsame'.2, _, by simp, hsame⟩, hmore'.1, hsame'.1⟩
  simp only [List.mem_cons, List.not_mem_nil, or_false]
  tauto

end SuiteRunner
