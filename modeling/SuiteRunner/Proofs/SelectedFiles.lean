import SuiteRunner.Proofs.LoadedSuites

/-!
# The files that a search loads

A search comes by a suite file in two ways: a directory is walked, or a search path is itself a
file.  The walk takes a file by its stem and by its extension.  A search path that is a file is only
selected by its stem, so that nothing but the search paths can have another extension.

* `HasSuiteStem` and `HasSuiteExtension`, the two parts of the name of a suite file;
* `hasType_iff` and `hasSuiteExtension_of_mem_namesBelow` — the check after the walk and the
  one in it;
* `mem_loadSuites` — each suite comes from one of the files that are loaded;
* `selectedPaths`, with `hasSuiteExtension_selectedPaths` — only search paths can go without one of
  the extensions;
* **`discover_named`** — what is known of the names of the files behind a search.
-/

namespace SuiteRunner

variable {files : FileTree} {type root path : String} {roots paths : List String} {fuel : Nat}
  {glob : Option Glob} {seen : List String} {suites : List Suite} {s : Suite}
  {selection : Selection}

/-! ### The parts of a name -/

/-- The stem of a file is that of a suite file of the type. -/
def HasSuiteStem (type path : String) : Prop :=
  ∃ t n, Path.stem? path = some ("testsuite_" ++ t ++ "_" ++ n) ∧ t ≠ "" ∧ '_' ∉ t.toList ∧
    n ≠ "" ∧ (type = "all" ∨ type = t)

/-- The extension of a file is one of those of suite files. -/
def HasSuiteExtension (path : String) : Prop :=
  ∃ ext ∈ ["yaml", "yml", "json"], Path.extension? path = some ext

/-- **What is selected by its type has the stem of a suite file.** -/
theorem hasType_iff : hasType type path = true ↔ HasSuiteStem type path := by
  rw [hasType]
  constructor
  · intro h
    cases hparts : (Path.stem? path).bind splitStem? with
    | none =>
      rw [hparts] at h
      cases h
    | some parts =>
      obtain ⟨t, n⟩ := parts
      rw [hparts] at h
      obtain ⟨stem, hstem, hsplit⟩ := Option.bind_eq_some_iff.1 hparts
      obtain ⟨rfl, ht, hfree, hn⟩ := splitStem?_eq_some.1 hsplit
      exact ⟨t, n, hstem, ht, hfree, hn, by simpa [allTypes] using h⟩
  · intro h
    obtain ⟨t, n, hstem, ht, hfree, hn, htype⟩ := h
    have hsplit := splitStem?_eq_some.2 ⟨rfl, ht, hfree, hn⟩
    rw [hstem, Option.bind_some, hsplit]
    simpa [allTypes] using htype

theorem hasSuiteExtension_of_isSuitePath (h : isSuitePath path = true) :
    HasSuiteExtension path := by
  obtain ⟨hext, -⟩ := Bool.and_eq_true_iff.1 h
  cases hextension : Path.extension? path with
  | none =>
    rw [hextension] at hext
    cases hext
  | some ext =>
    rw [hextension] at hext
    exact ⟨ext, List.contains_iff_mem.1 hext, hextension⟩

/-- The walk takes nothing with another extension. -/
theorem hasSuiteExtension_of_mem_namesBelow {dir : String} {names : List String}
    (h : names ∈ namesBelow files fuel dir) : HasSuiteExtension (Path.joinAll dir names) := by
  induction fuel generalizing dir names with
  | zero => cases h
  | succ fuel ih =>
    rw [namesBelow] at h
    split at h
    · cases h
    · obtain ⟨name, -, hthrough⟩ := List.mem_flatMap.1 h
      rcases mem_namesThrough.1 hthrough with ⟨-, -, rest, hrest, rfl⟩ | ⟨-, hsuite, rfl⟩
      · have hlater := ih hrest
        exact hlater
      · exact hasSuiteExtension_of_isSuitePath hsuite

/-! ### The way from a search path to a suite -/

/-- At a search path there is the file itself, or what the walk comes by. -/
theorem mem_pathsAt (h : path ∈ pathsAt files root) :
    HasSuiteExtension path ∨ (path = root ∧ files.isFile root = true) := by
  rw [pathsAt] at h
  split at h
  · rename_i hfile
    exact .inr ⟨List.mem_singleton.1 h, hfile⟩
  · obtain ⟨names, hnames, rfl⟩ := List.mem_map.1 h
    exact .inl (hasSuiteExtension_of_mem_namesBelow hnames)

/-- The suite is the one that is loaded from the file, with some of its cases left out. -/
def Suite.IsFrom (files : FileTree) (path : String) (s : Suite) : Prop :=
  ∃ loaded, loadSuite files path = .ok loaded ∧ s = { loaded with cases := s.cases } ∧
    s.cases.Sublist loaded.cases

theorem Suite.IsFrom.path_eq (h : s.IsFrom files path) : s.path = path := by
  obtain ⟨loaded, hload, hs, -⟩ := h
  obtain ⟨-, -, u, -, -, -, rfl⟩ := readText_of_loadSuite hload
  rw [hs]
  rfl

/-- **Each suite comes from one of the files that are loaded.** -/
theorem mem_loadSuites (h : loadSuites files glob seen paths = .ok suites) (hs : s ∈ suites) :
    ∃ path ∈ paths, s.IsFrom files path := by
  induction paths generalizing seen suites with
  | nil =>
    cases h
    cases hs
  | cons path paths ih =>
    have hlater : ∀ {seen rest}, loadSuites files glob seen paths = .ok rest → s ∈ rest →
        ∃ path' ∈ path :: paths, s.IsFrom files path' := by
      intro seen rest hrest hs
      obtain ⟨path', hpath', hfrom⟩ := ih hrest hs
      exact ⟨path', List.mem_cons_of_mem path hpath', hfrom⟩
    rw [loadSuites] at h
    cases hload : loadSuite files path with
    | error fault =>
      rw [hload] at h
      cases h
    | ok loaded =>
      rw [hload] at h
      dsimp only at h
      split_ifs at h with hseen hcases
      · exact hlater h hs
      · exact hlater h hs
      · obtain ⟨rest, hrest, rfl⟩ := map_eq_ok.1 h
        obtain rfl | hs := List.mem_cons.1 hs
        · exact ⟨path, List.mem_cons_self, loaded, hload, rfl, List.filter_sublist⟩
        · exact hlater hrest hs

theorem exists?_of_isFile (h : files.isFile path = true) : files.exists? path = true := by
  rw [FileTree.isFile] at h
  rw [FileTree.exists?]
  split at h
  · rename_i hfind
    rw [hfind]
  · cases h

theorem exists?_of_isDirectory (h : files.isDirectory path = true) :
    files.exists? path = true := by
  obtain ⟨l, hfind⟩ := FileTree.isDirectory_iff.1 h
  rw [FileTree.exists?, hfind]

/-! ### The search -/

/-- The paths of the suite files of the type at all search paths. -/
def selectedPaths (files : FileTree) (selection : Selection) : List String :=
  (selection.searchPaths.flatMap (pathsAt files)).filter (hasType selection.testType)

theorem mem_selectedPaths : path ∈ selectedPaths files selection ↔
    (∃ root ∈ selection.searchPaths, path ∈ pathsAt files root) ∧
      HasSuiteStem selection.testType path := by
  rw [selectedPaths, List.mem_filter, List.mem_flatMap, hasType_iff]

/-- Where something stands at each search path, these are the paths that are loaded. -/
theorem pathsToLoad_of_present (present : ∀ root ∈ selection.searchPaths,
      files.isDirectory root = true ∨ files.isFile root = true) :
    pathsToLoad files selection none = .ok (selectedPaths files selection) := by
  have hfound : suitePaths files selection.searchPaths =
      .ok (selection.searchPaths.flatMap (pathsAt files)) := by
    refine suitePaths_eq_ok.2 ⟨fun root hroot => ?_, rfl⟩
    exact (present root hroot).elim exists?_of_isDirectory exists?_of_isFile
  rw [pathsToLoad, hfound]
  rfl

/-- All these files have the extension of a suite file if the search paths among them do. -/
theorem hasSuiteExtension_selectedPaths :
    (∀ path ∈ selectedPaths files selection, HasSuiteExtension path) ↔
      ∀ root ∈ selection.searchPaths, files.isFile root = true →
        HasSuiteStem selection.testType root → HasSuiteExtension root := by
  constructor
  · intro hall root hroot hfile hstem
    refine hall root (mem_selectedPaths.2 ⟨⟨root, hroot, ?_⟩, hstem⟩)
    rw [pathsAt_of_isFile hfile]
    exact List.mem_singleton_self root
  · intro hroots path hpath
    obtain ⟨⟨root, hroot, hat⟩, hstem⟩ := mem_selectedPaths.1 hpath
    obtain hextension | ⟨rfl, hfile⟩ := mem_pathsAt hat
    · exact hextension
    · exact hroots path hroot hfile hstem

/-- **The files behind a search** all have the stem of a suite file of the type.  Those that the
walk comes by have the extension of one as well, and a search path that is a file is loaded whatever
its extension is. -/
theorem discover_named (present : ∀ root ∈ selection.searchPaths,
      files.isDirectory root = true ∨ files.isFile root = true) :
    ∃ paths, pathsToLoad files selection none = .ok paths ∧
      (∀ path ∈ paths, HasSuiteStem selection.testType path ∧
        (HasSuiteExtension path ∨
          (path ∈ selection.searchPaths ∧ files.isFile path = true))) ∧
      ((∀ path ∈ paths, HasSuiteExtension path) ↔
        ∀ root ∈ selection.searchPaths, files.isFile root = true →
          HasSuiteStem selection.testType root → HasSuiteExtension root) ∧
      ∀ suites, discover files selection none = .ok suites →
        ∀ s ∈ suites, s.path ∈ paths ∧ s.IsFrom files s.path := by
  have hpaths := pathsToLoad_of_present present
  refine ⟨_, hpaths, fun path hpath => ?_, hasSuiteExtension_selectedPaths,
    fun suites hsuites s hs => ?_⟩
  · obtain ⟨⟨root, hroot, hat⟩, hstem⟩ := mem_selectedPaths.1 hpath
    refine ⟨hstem, (mem_pathsAt hat).imp_right fun h => ?_⟩
    rw [h.1]
    exact ⟨hroot, h.2⟩
  · obtain ⟨glob, -, found, hfound, loaded, hloaded, rfl⟩ := discover_eq_ok.1 hsuites
    cases hpaths.symm.trans hfound
    obtain ⟨path, hpath, hfrom⟩ := mem_loadSuites hloaded (mem_sortSuites.1 hs)
    rw [hfrom.path_eq]
    exact ⟨hpath, hfrom⟩

/-- A directory with a suite, and another suite outside of it. -/
def outsideTree : FileTree where
  entries :=
    let content :=
      Utf8.encode "\x7b\"tests\":[\x7b\"name\":\"ring\",\"model\":\"m.py\"\x7d]\x7d".toList
    [(["t"], .directory), (["t", "testsuite_a_two.json"], .file content),
      (["testsuite_a_one.yaml"], .file content)]
  working := []

/-- Both suites are found when the directory and the other file are searched. -/
theorem outsideTree_named :
    (∀ root ∈ ["t", "testsuite_a_one.yaml"],
      outsideTree.isDirectory root = true ∨ outsideTree.isFile root = true) ∧
    ∃ suites, discover outsideTree ⟨["t", "testsuite_a_one.yaml"], "a", none⟩ none = .ok suites ∧
      (∀ path ∈ ["t/testsuite_a_two.json", "testsuite_a_one.yaml"], ∃ s ∈ suites, s.path = path) ∧
      ∀ s ∈ suites, HasSuiteStem "a" s.path ∧ HasSuiteExtension s.path ∧
        s.IsFrom outsideTree s.path := by
  have present : ∀ root ∈ ["t", "testsuite_a_one.yaml"],
      outsideTree.isDirectory root = true ∨ outsideTree.isFile root = true := by decide +kernel
  obtain ⟨paths, hpaths, hnames, hextensions, hfrom⟩ :=
    @discover_named outsideTree ⟨["t", "testsuite_a_one.yaml"], "a", none⟩ present
  have hall : ∀ path ∈ paths, HasSuiteExtension path := by
    refine hextensions.2 fun root hroot hfile _ => ?_
    obtain rfl | hroot := List.mem_cons.1 hroot
    · exact absurd hfile (by decide +kernel)
    · rw [List.mem_singleton.1 hroot]
      exact ⟨"yaml", by decide, by decide +kernel⟩
  -- Sorting is not evaluated: the suites are found before it.
  have hevaluate : (pathsToLoad outsideTree ⟨["t", "testsuite_a_one.yaml"], "a", none⟩
        none).toOption = some ["t/testsuite_a_two.json", "testsuite_a_one.yaml"] ∧
      (loadSuites outsideTree none [] ["t/testsuite_a_two.json",
        "testsuite_a_one.yaml"]).toOption.map (·.map Suite.path) =
          some ["t/testsuite_a_two.json", "testsuite_a_one.yaml"] := by
    decide +kernel
  obtain ⟨loaded, hloaded, hpath⟩ := Option.map_eq_some_iff.1 hevaluate.2
  rw [toOption_eq_some] at hloaded
  have hdiscover : discover outsideTree ⟨["t", "testsuite_a_one.yaml"], "a", none⟩ none =
      .ok (sortSuites loaded) :=
    discover_eq_ok.2 ⟨none, rfl, _, toOption_eq_some.1 hevaluate.1, loaded, hloaded, rfl⟩
  refine ⟨present, sortSuites loaded, hdiscover, fun path hmem => ?_, fun s hs => ?_⟩
  · rw [← hpath] at hmem
    obtain ⟨s, hs, rfl⟩ := List.mem_map.1 hmem
    exact ⟨s, mem_sortSuites.2 hs, rfl⟩
  · obtain ⟨hpath, hs⟩ := hfrom _ hdiscover s hs
    exact ⟨(hnames _ hpath).1, hall _ hpath, hs⟩

/-- A suite in a file with the extension of another kind of text. -/
def strayTree : FileTree where
  entries :=
    let content :=
      Utf8.encode "\x7b\"tests\":[\x7b\"name\":\"ring\",\"model\":\"m.py\"\x7d]\x7d".toList
    [(["testsuite_default_demo.txt"], .file content)]
  working := []

/-- A search path that is such a file is loaded. -/
theorem strayTree_found :
    strayTree.isFile "testsuite_default_demo.txt" = true ∧
    ∃ suites s, discover strayTree ⟨["testsuite_default_demo.txt"], "default", none⟩ none =
        .ok suites ∧ s ∈ suites ∧ s.path = "testsuite_default_demo.txt" ∧
      ¬ HasSuiteExtension s.path := by
  have hevaluate : (discover strayTree ⟨["testsuite_default_demo.txt"], "default", none⟩
      none).toOption.map (·.map Suite.path) = some ["testsuite_default_demo.txt"] := by
    decide +kernel
  obtain ⟨suites, hdiscover, hsuites⟩ := Option.map_eq_some_iff.1 hevaluate
  rw [toOption_eq_some] at hdiscover
  obtain ⟨s, hs, hpath⟩ := List.mem_map.1
    (show "testsuite_default_demo.txt" ∈ suites.map Suite.path by rw [hsuites]; simp)
  refine ⟨by decide +kernel, suites, s, hdiscover, hs, hpath, ?_⟩
  rw [hpath]
  intro ⟨ext, hmem, hext⟩
  have htxt : Path.extension? "testsuite_default_demo.txt" = some "txt" := by decide +kernel
  rw [htxt] at hext
  cases hext
  exact absurd hmem (by decide)

end SuiteRunner
