import Mathlib.Data.List.Forall2
import SuiteRunner.Proofs.SuiteNames
import SuiteRunner.Proofs.SuiteWalk

/-!
# The suites that are found

The search for suites walks the search paths in order and loads what has the name of a suite file of
the type.  Which suites it finds can be told from the tree and from the files alone.

* `LeadsToSuite` and `IsSelected`, what is taken for a suite file;
* `IsWalk`, the names on the ways to the suite files below a search path, with `isWalk_suiteWalk`;
* `loadSuites_spec` — of suites with the same name the first one counts;
* `Suite.Declared` — a suite has the cases of its document in their order;
* **`discover_selects`** — what is found.
-/

namespace SuiteRunner

variable {files : FileTree} {type root path p : String} {roots paths names : List String}
  {l : Location} {e : Entry} {s r : Suite} {content : Bytes}

/-! ### Selected files -/

/-- The names lead from a search path to something that has the name of a suite file of the type. -/
structure LeadsToSuite (files : FileTree) (type root : String) (names : List String) (e : Entry) :
    Prop where
  leads : ∃ l, files.find root = .ok (l, .directory) ∧ Leads files l names e
  named : ∃ name, names.getLast? = some name ∧ IsSuiteName type name

/-- The path is taken for that of a suite file: names lead there, and no directory is seen at it.  A
directory is not seen where its path is too long for the system. -/
def IsSelected (files : FileTree) (type : String) (roots : List String) (path : String) : Prop :=
  ∃ root ∈ roots, ∃ names e, LeadsToSuite files type root names e ∧
    path = Path.joinAll root names ∧ files.isDirectory path = false

/-- The names on the ways from a search path to the suite files of the type, in their order. -/
structure IsWalk (files : FileTree) (type root : String) (walk : List (List String)) : Prop where
  ordered : walk.Pairwise (· < ·)
  mem_iff : ∀ names, names ∈ walk ↔ ∃ content, LeadsToSuite files type root names (.file content)

/-- The ways of the walk below a search path that the type selects. -/
def suiteWalk (files : FileTree) (type root : String) : List (List String) :=
  (namesBelow files (files.entries.length + 1) root).filter fun names =>
    hasType type (Path.joinAll root names)

/-- The paths of suite files of a type below a directory. -/
theorem pathsAt_filter_eq (hroot : files.find root = .ok (l, .directory)) :
    (pathsAt files root).filter (hasType type) =
      (suiteWalk files type root).map (Path.joinAll root) := by
  rw [pathsAt_of_find hroot, List.filter_map, suiteWalk]
  rfl

/-- The paths that are selected are made of the search paths and the ways below them. -/
theorem suitePaths_filter_eq (directories : ∀ root ∈ roots, files.isDirectory root = true) :
    (suitePaths files roots).map (·.filter (hasType type)) =
      .ok (roots.flatMap fun root => (suiteWalk files type root).map (Path.joinAll root)) := by
  have hexists : ∀ root ∈ roots, files.exists? root = true := by
    intro root hroot
    obtain ⟨l, hl⟩ := FileTree.isDirectory_iff.1 (directories root hroot)
    rw [FileTree.exists?, hl]
  rw [suitePaths_eq_ok.2 ⟨hexists, rfl⟩, Except.map, List.filter_flatMap, List.flatMap_def,
    List.flatMap_def]
  congr 2
  refine List.map_congr_left fun root hroot => ?_
  obtain ⟨l, hl⟩ := FileTree.isDirectory_iff.1 (directories root hroot)
  exact pathsAt_filter_eq hl

/-- The last name of a way decides whether it is selected. -/
theorem isSuitePath_and_hasType_joinAll (some_name : names ≠ [])
    (hnames : ∀ name ∈ names, FileTree.IsEntryName name) :
    isSuitePath (Path.joinAll root names) = true ∧ hasType type (Path.joinAll root names) = true ↔
      ∃ name, names.getLast? = some name ∧ IsSuiteName type name := by
  obtain ⟨front, name, rfl⟩ : ∃ front name, names = front ++ [name] :=
    ⟨_, _, (List.dropLast_concat_getLast some_name).symm⟩
  have hname := (hnames name (by simp)).1
  have hjoin : Path.joinAll root (front ++ [name]) = Path.join (Path.joinAll root front) name :=
    Path.joinAll_append root front [name]
  rw [hjoin, isSuitePath_and_hasType_iff hname]
  simp

/-- A suite is loaded from a file. -/
theorem readText_of_loadSuite (h : loadSuite files path = .ok s) :
    ∃ text node u, files.readText path = .ok text ∧ suiteDocument? path text = some node ∧
      Suite.ofNode? node = some u ∧ s = u.named path := by
  rw [loadSuite] at h
  cases htext : files.readText path with
  | error fault =>
    rw [htext] at h
    cases h
  | ok text =>
    rw [htext] at h
    dsimp only at h
    cases hnode : (suiteDocument? path text).bind Suite.ofNode? with
    | none =>
      rw [hnode] at h
      cases h
    | some u =>
      rw [hnode] at h
      dsimp only at h
      obtain ⟨node, hdocument, hu⟩ := Option.bind_eq_some_iff.1 hnode
      split at h
      · cases h
      · cases h
        exact ⟨text, node, u, rfl, hdocument, hu, rfl⟩

/-- The ways of the walk lead to what has the name of a suite file and is not seen to be a
directory. -/
theorem leadsToSuite_of_mem (tree : files.IsTree) (hroot : files.find root = .ok (l, .directory))
    (h : names ∈ suiteWalk files type root) :
    ∃ e, LeadsToSuite files type root names e ∧
      files.isDirectory (Path.joinAll root names) = false := by
  obtain ⟨hmem, htype⟩ := List.mem_filter.1 h
  obtain ⟨e, hleads, hseen, hsuite⟩ := leads_of_mem_namesBelow tree hroot hmem
  have hnames := tree.isEntryName (by rw [hleads.entry]; simp)
  have hnamed := (isSuitePath_and_hasType_joinAll hleads.some_name hnames).1 ⟨hsuite, htype⟩
  exact ⟨e, ⟨⟨l, hroot, hleads⟩, hnamed⟩, hseen⟩

/-- A suite is loaded from a file, at a path that is not too long. -/
theorem exists_file_of_loadSuite {path : String} {s : Suite}
    (h : loadSuite files path = .ok s) :
    path.utf8ByteSize < FileTree.pathLimit ∧ ∃ content, files.readBytes path = .ok content := by
  obtain ⟨text, -, -, htext, -⟩ := readText_of_loadSuite h
  rw [FileTree.readText, bind_eq_ok] at htext
  obtain ⟨content, hread, -⟩ := htext
  obtain ⟨k, hk, -⟩ := FileTree.readBytes_eq_ok.1 hread
  exact ⟨(FileTree.locate_eq_ok.1 hk).1.2.2, content, hread⟩

/-- **Where everything loads that is taken for a suite file, the ways of the walk are those to the
suite files.** -/
theorem isWalk_suiteWalk (tree : files.IsTree) (hroot : files.find root = .ok (l, .directory))
    (loads : ∀ names e, LeadsToSuite files type root names e →
      files.isDirectory (Path.joinAll root names) = false →
      ∃ s, loadSuite files (Path.joinAll root names) = .ok s) :
    IsWalk files type root (suiteWalk files type root) := by
  refine ⟨(pairwise_namesBelow tree hroot).filter _, fun names => ⟨fun hmem => ?_, ?_⟩⟩
  · obtain ⟨e, hsuite, hseen⟩ := leadsToSuite_of_mem tree hroot hmem
    obtain ⟨s, hs⟩ := loads names e hsuite hseen
    obtain ⟨k, hk, hleads⟩ := hsuite.leads
    rw [hroot] at hk
    cases hk
    have hfind := FileTree.find_joinAll tree hroot hleads.entry (exists_file_of_loadSuite hs).1
    cases e with
    | file content => exact ⟨content, hsuite⟩
    | directory =>
      rw [FileTree.isDirectory, hfind] at hseen
      cases hseen
  · rintro ⟨content, hsuite⟩
    obtain ⟨⟨k, hk, hleads⟩, hnamed⟩ := hsuite
    rw [hroot] at hk
    cases hk
    have hsome : files.entry? (l ++ names) ≠ none := by rw [hleads.entry]; simp
    have hseen : files.isDirectory (Path.joinAll root names) = false := by
      by_contra hdirectory
      rw [Bool.not_eq_false] at hdirectory
      obtain ⟨m, hm⟩ := FileTree.isDirectory_iff.1 hdirectory
      have hfind := FileTree.find_joinAll tree hroot hleads.entry
        (FileTree.locate_eq_ok.1 (FileTree.find_eq_ok.1 hm).1).1.2.2
      rw [hm] at hfind
      cases hfind
    obtain ⟨s, hs⟩ := loads names _ ⟨⟨l, hroot, hleads⟩, hnamed⟩ hseen
    obtain ⟨hsuite, htype⟩ : isSuitePath (Path.joinAll root names) = true ∧
        hasType type (Path.joinAll root names) = true :=
      (isSuitePath_and_hasType_joinAll hleads.some_name (tree.isEntryName hsome)).2 hnamed
    have hlength := tree.length_le hsome
    rw [List.length_append] at hlength
    have hmem := mem_namesBelow_of_leads tree hroot hleads (exists_file_of_loadSuite hs).1 hsuite
      (show names.length ≤ files.entries.length + 1 by omega)
    exact List.mem_filter.2 ⟨hmem, htype⟩

/-! ### Loading -/

/-- The suite is that of the first path whose suite has its name. -/
def IsFirst (files : FileTree) (paths : List String) (s : Suite) : Prop :=
  ∃ before path after, paths = before ++ path :: after ∧ loadSuite files path = .ok s ∧
    ∀ q ∈ before, ∀ r, loadSuite files q = .ok r → r.name ≠ s.name

/-- What is first among more paths. -/
theorem isFirst_cons (h : loadSuite files p = .ok r) :
    IsFirst files (p :: paths) s ↔ s = r ∨ (r.name ≠ s.name ∧ IsFirst files paths s) := by
  constructor
  · rintro ⟨before, path, after, hsplit, hload, hfirst⟩
    cases before with
    | nil =>
      obtain ⟨rfl, rfl⟩ := List.cons.inj hsplit
      rw [h] at hload
      cases hload
      exact .inl rfl
    | cons q before =>
      obtain ⟨rfl, rfl⟩ := List.cons.inj hsplit
      exact .inr ⟨hfirst p List.mem_cons_self r h, before, path, after, rfl, hload,
        fun q hq => hfirst q (List.mem_cons_of_mem _ hq)⟩
  · rintro (rfl | ⟨hne, before, path, after, rfl, hload, hfirst⟩)
    · exact ⟨[], p, paths, rfl, h, by simp⟩
    · refine ⟨p :: before, path, after, rfl, hload, fun q hq r' hr' => ?_⟩
      rcases List.mem_cons.1 hq with rfl | hq
      · rw [h] at hr'
        cases hr'
        exact hne
      · exact hfirst q hq r' hr'

/-- **Of suites with the same name the first one counts**, and suites without cases do not. -/
theorem loadSuites_spec (loads : ∀ p ∈ paths, ∃ s, loadSuite files p = .ok s)
    (seen : List String) :
    ∃ suites, loadSuites files none seen paths = .ok suites ∧ (suites.map Suite.name).Nodup ∧
      ∀ s, s ∈ suites ↔ s.cases ≠ [] ∧ s.name ∉ seen ∧ IsFirst files paths s := by
  induction paths generalizing seen with
  | nil => exact ⟨[], rfl, List.nodup_nil, fun s => by simp [IsFirst]⟩
  | cons p paths ih =>
    obtain ⟨r, hr⟩ := loads p List.mem_cons_self
    have hrest := fun q hq => loads q (List.mem_cons_of_mem _ hq)
    have hall : r.cases.filter (selects none r.name) = r.cases := by simp [selects]
    rw [loadSuites, hr]
    simp only [hall]
    by_cases hseen : r.name ∈ seen
    · obtain ⟨suites, hsuites, hnodup, hmem⟩ := ih hrest seen
      refine ⟨suites, by rw [if_pos (by simpa using hseen), hsuites], hnodup, fun s => ?_⟩
      rw [hmem, isFirst_cons hr]
      refine and_congr_right fun _ => and_congr_right fun hs => ?_
      have hne : r.name ≠ s.name := fun heq => hs (heq ▸ hseen)
      have hsr : s ≠ r := fun heq => hne (heq ▸ rfl)
      simp [hne, hsr]
    · obtain ⟨suites, hsuites, hnodup, hmem⟩ := ih hrest (r.name :: seen)
      rw [if_neg (by simpa using hseen), hsuites]
      by_cases hcases : r.cases = []
      · refine ⟨suites, by simp [hcases], hnodup, fun s => ?_⟩
        rw [hmem, isFirst_cons hr, List.mem_cons, not_or]
        refine and_congr_right fun hs => ?_
        have hsr : s ≠ r := fun heq => hs (heq ▸ hcases)
        simp only [hsr, false_or, ne_eq, eq_comm (a := r.name)]
        tauto
      · refine ⟨r :: suites, by simp [hcases, Except.map], ?_, fun s => ?_⟩
        · rw [List.map_cons, List.nodup_cons]
          refine ⟨fun h => ?_, hnodup⟩
          obtain ⟨s, hs, hname⟩ := List.mem_map.1 h
          exact ((hmem s).1 hs).2.1 (hname ▸ List.mem_cons_self)
        · rw [List.mem_cons, hmem, isFirst_cons hr, List.mem_cons, not_or]
          constructor
          · rintro (rfl | ⟨hs, ⟨hne, hnot⟩, hfirst⟩)
            · exact ⟨hcases, hseen, .inl rfl⟩
            · exact ⟨hs, hnot, .inr ⟨Ne.symm hne, hfirst⟩⟩
          · rintro ⟨hs, hnot, rfl | ⟨hne, hfirst⟩⟩
            · exact .inl rfl
            · exact .inr ⟨hs, ⟨Ne.symm hne, hnot⟩, hfirst⟩

/-- The cases of a suite are those of the document in its file, in their order. -/
def Suite.Declared (files : FileTree) (s : Suite) : Prop :=
  ∃ text node record items, files.readText s.path = .ok text ∧
    suiteDocument? s.path text = some node ∧ Record.ofNode? Suite.fields node = some record ∧
    record.field? "tests" = some (.list items) ∧
    List.Forall₂ (fun item c => TestCase.ofNode? item = some c) items s.cases

/-- What is read from a list is in the order of the list. -/
theorem Node.forall₂_of_list? {α : Type} {read : Node → Option α} {n : Node} {xs : List α}
    (h : n.list? read = some xs) :
    ∃ items, n = .list items ∧ List.Forall₂ (fun item x => read item = some x) items xs := by
  cases n with
  | list items =>
    refine ⟨items, rfl, ?_⟩
    rw [Node.list?] at h
    induction items generalizing xs with
    | nil =>
      cases h
      exact .nil
    | cons item items ih =>
      rw [List.mapM_cons] at h
      obtain ⟨x, hx, h⟩ := Option.bind_eq_some_iff.1 h
      obtain ⟨xs, hxs, h⟩ := Option.bind_eq_some_iff.1 h
      cases h
      exact .cons hx (ih hxs)
  | _ => cases h

theorem Suite.declared_of_load (h : loadSuite files path = .ok s) : s.Declared files := by
  obtain ⟨text, node, u, htext, hnode, hu, rfl⟩ := readText_of_loadSuite h
  rw [Suite.ofNode?] at hu
  obtain ⟨record, hrecord, hu⟩ := Option.bind_eq_some_iff.1 hu
  obtain ⟨name, -, hu⟩ := Option.bind_eq_some_iff.1 hu
  obtain ⟨reportName, -, hu⟩ := Option.bind_eq_some_iff.1 hu
  obtain ⟨elements, -, hu⟩ := Option.bind_eq_some_iff.1 hu
  obtain ⟨defaults, -, hu⟩ := Option.bind_eq_some_iff.1 hu
  obtain ⟨cases, hcases, hu⟩ := Option.bind_eq_some_iff.1 hu
  cases hu
  rw [Record.required] at hcases
  obtain ⟨field, hfield, hlist⟩ := Option.bind_eq_some_iff.1 hcases
  obtain ⟨items, rfl, hitems⟩ := Node.forall₂_of_list? hlist
  exact ⟨text, node, record, items, htext, hnode, hrecord, hfield, hitems⟩

/-! ### The search -/

/-- Suites with different names are sorted by them. -/
theorem pairwise_sortSuites {suites : List Suite} (h : (suites.map Suite.name).Nodup) :
    (sortSuites suites).Pairwise fun a b => a.name < b.name := by
  have hperm := List.mergeSort_perm suites fun a b => !(b.name < a.name)
  have hnodup : ((sortSuites suites).map Suite.name).Nodup := (hperm.map _).nodup_iff.2 h
  have hsorted := pairwise_mergeSort_name Suite.name suites
  exact (hsorted.and (List.pairwise_map.1 hnodup)).imp fun h => name_lt_of_ne h.1 h.2

/-- **What the search for suites finds.**  It selects the files that names lead to from a search
path, through no hidden directory below it, and that have the name of a suite file of the type.  The
search paths come in their order, and the ways below each of them in that of their names.  The
suites of these files are sorted by name; of suites with the same name the first one is found,
unless it has no cases. -/
theorem discover_selects (tree : files.IsTree)
    (directories : ∀ root ∈ roots, files.isDirectory root = true)
    (loads : ∀ path, IsSelected files type roots path → ∃ s, loadSuite files path = .ok s) :
    ∃ (walk : String → List (List String)) (suites : List Suite),
      (∀ root ∈ roots, IsWalk files type root (walk root)) ∧
      (suitePaths files roots).map (·.filter (hasType type)) =
        .ok (roots.flatMap fun root => (walk root).map (Path.joinAll root)) ∧
      discover files ⟨roots, type, none⟩ none = .ok suites ∧
      suites.Pairwise (fun a b => a.name < b.name) ∧
      (∀ s, s ∈ suites ↔ s.cases ≠ [] ∧
        IsFirst files (roots.flatMap fun root => (walk root).map (Path.joinAll root)) s) ∧
      ∀ s ∈ suites, s.Declared files := by
  have hpaths : (suitePaths files roots).map (·.filter (hasType type)) = _ :=
    suitePaths_filter_eq directories
  have hwalk : ∀ root ∈ roots, IsWalk files type root (suiteWalk files type root) := by
    intro root hroot
    obtain ⟨l, hl⟩ := FileTree.isDirectory_iff.1 (directories root hroot)
    exact isWalk_suiteWalk tree hl fun names e hleads hseen =>
      loads _ ⟨root, hroot, names, e, hleads, rfl, hseen⟩
  have hloads : ∀ p ∈ roots.flatMap fun root =>
      (suiteWalk files type root).map (Path.joinAll root), ∃ s, loadSuite files p = .ok s := by
    intro p hp
    obtain ⟨root, hroot, hp⟩ := List.mem_flatMap.1 hp
    obtain ⟨names, hnames, rfl⟩ := List.mem_map.1 hp
    obtain ⟨l, hl⟩ := FileTree.isDirectory_iff.1 (directories root hroot)
    obtain ⟨e, hsuite, hseen⟩ := leadsToSuite_of_mem tree hl hnames
    exact loads _ ⟨root, hroot, names, e, hsuite, rfl, hseen⟩
  obtain ⟨suites, hsuites, hnodup, hmem⟩ := loadSuites_spec hloads []
  have hsorted : ∀ s, s ∈ sortSuites suites ↔ s ∈ suites := fun s =>
    (List.mergeSort_perm suites _).mem_iff
  refine ⟨suiteWalk files type, sortSuites suites, hwalk, hpaths, ?_, pairwise_sortSuites hnodup,
    fun s => ?_, fun s hs => ?_⟩
  · rw [discover, Selection.glob]
    simp only [hpaths, bind, Except.bind, hsuites]
    rfl
  · rw [hsorted, hmem]
    simp
  · obtain ⟨-, -, before, path, after, -, hload, -⟩ := (hmem s).1 ((hsorted s).1 hs)
    exact Suite.declared_of_load hload

/-- A directory with a suite in a directory below it, and with another suite that is hidden. -/
def demoTree : FileTree where
  entries :=
    let suite := "\x7b\"tests\":[\x7b\"name\":\"one\",\"model\":\"m.py\"\x7d]\x7d"
    let content := Utf8.encode suite.toList
    [(["t"], .directory), (["t", ".old"], .directory), (["t", "deep"], .directory),
      (["t", ".old", "testsuite_a_one.json"], .file content),
      (["t", "deep", "testsuite_a_two.json"], .file content)]
  working := []

/-- The path that is taken for that of a suite file. -/
theorem eq_of_isSelected_demoTree (h : IsSelected demoTree "a" ["/t"] path) :
    path = "/t/deep/testsuite_a_two.json" := by
  obtain ⟨root, hroot, names, e, ⟨⟨l, hl, hleads⟩, -⟩, rfl, hseen⟩ := h
  rw [List.mem_singleton.1 hroot] at hl hseen ⊢
  have hdirectory : demoTree.find "/t" = .ok (["t"], .directory) := rfl
  rw [hdirectory] at hl
  cases hl
  have hmem : "t" :: names ∈ demoTree.entries.map Prod.fst := by
    obtain ⟨front, name, rfl⟩ : ∃ front name, names = front ++ [name] :=
      ⟨_, _, (List.dropLast_concat_getLast hleads.some_name).symm⟩
    have hentry := hleads.entry
    rw [← List.append_assoc] at hentry
    exact FileTree.entry?_concat_ne_none.1 (by rw [hentry]; simp)
  simp only [demoTree, List.map_cons, List.map_nil, List.mem_cons, List.cons.injEq, true_and,
    List.not_mem_nil, or_false] at hmem
  rcases hmem with rfl | rfl | rfl | rfl | rfl
  · exact absurd rfl hleads.some_name
  · exact absurd hseen (by decide +kernel)
  · exact absurd hseen (by decide +kernel)
  · exact absurd (by decide) (hleads.visible ".old" (by simp))
  · rfl

theorem demoTree_selects :
    demoTree.IsTree ∧ (∀ root ∈ ["/t"], demoTree.isDirectory root = true) ∧
      (∀ path, IsSelected demoTree "a" ["/t"] path → ∃ s, loadSuite demoTree path = .ok s) ∧
      ∃ walk suites, ["deep", "testsuite_a_two.json"] ∈ walk ∧
        [".old", "testsuite_a_one.json"] ∉ walk ∧ IsWalk demoTree "a" "/t" walk ∧
        discover demoTree ⟨["/t"], "a", none⟩ none = .ok suites := by
  have tree : demoTree.IsTree := ⟨by decide +kernel, by decide +kernel, by decide +kernel⟩
  have directories : ∀ root ∈ ["/t"], demoTree.isDirectory root = true := by decide +kernel
  have loads : ∀ path, IsSelected demoTree "a" ["/t"] path →
      ∃ s, loadSuite demoTree path = .ok s := by
    intro path hpath
    rw [eq_of_isSelected_demoTree hpath]
    have hload : (loadSuite demoTree "/t/deep/testsuite_a_two.json").toOption.isSome = true := by
      decide +kernel
    exact (Option.isSome_iff_exists.1 hload).imp fun s => toOption_eq_some.1
  obtain ⟨walk, suites, hwalk, -, hdiscover, -⟩ := discover_selects tree directories loads
  have hwalk := hwalk "/t" List.mem_cons_self
  refine ⟨tree, directories, loads, walk "/t", suites, ?_, fun hidden => ?_, hwalk, hdiscover⟩
  · refine (hwalk.mem_iff _).2 ⟨_, ⟨["t"], rfl, by simp, rfl, by decide⟩, _, rfl, ?_⟩
    exact ⟨"testsuite_a_two", "json", "a", "two", rfl, by simp, rfl, by decide, by decide,
      by decide, .inr rfl⟩
  · obtain ⟨content, ⟨l, -, hleads⟩, -⟩ := (hwalk.mem_iff _).1 hidden
    exact absurd (hleads.visible ".old" (by simp)) (by decide)

end SuiteRunner
