import Mathlib.Data.List.Sort
import SuiteRunner.Proofs.SuiteSelection
import SuiteRunner.Proofs.TreeGrowth

/-!
# The search for suites after directories were created

A search that succeeds loads every path that it takes for that of a suite file, so that it takes
nothing but files.  New directories bring no files and hide none: when suites are searched for once
more after directories were created, the same suites are found.

* `FileTree.IsTree.put` — an entry that is set keeps a tree;
* `FileTree.IsTree.createDirectories` — created directories have names like all entries;
* `suiteWalk_subset`, what the one walk comes by and the other, too;
* `loadSuites_of_reads` — suites are loaded from what is read;
* **`discover_of_grown`** — two searches that succeed find the same suites.
-/

namespace SuiteRunner

/-- The characters of a piece are those of the text. -/
theorem Text.mem_of_mem_splitOn {sep c : Char} {s piece : List Char} (h : piece ∈ s.splitOn sep)
    (hc : c ∈ piece) : c ∈ s := by
  have hjoin : [sep].intercalate (s.splitOn sep) = s := List.intercalate_splitOn sep
  rw [← hjoin]
  obtain ⟨before, after, hsplit⟩ := List.append_of_mem h
  have hafter : c ∈ [sep].intercalate (piece :: after) := by
    cases after with
    | nil => simpa using hc
    | cons q after =>
      rw [List.intercalate_cons_cons, List.append_assoc]
      exact List.mem_append_left _ hc
  rw [hsplit]
  by_cases hbefore : before = []
  · rwa [hbefore, List.nil_append]
  · rw [intercalate_append hbefore (by simp)]
    exact List.mem_append_right _ hafter

namespace FileTree

variable {t t' : FileTree} {k l : Location} {e : Entry} {path name : String} {names : List String}

/-! ### Trees that grow -/

/-- Names that lead to where nothing is end with the name of it. -/
theorem exists_name_of_follow (tree : t.IsTree) (some_name : names ≠ [])
    (h : t.follow k names = .ok l) (hnone : t.entry? l = none) :
    ∃ base name, l = base ++ [name] ∧ name ∈ names ∧ name ≠ "" ∧ name ≠ "." ∧ name ≠ ".." ∧
      name.utf8ByteSize ≤ nameLimit := by
  obtain ⟨front, name, rfl⟩ : ∃ front name, names = front ++ [name] :=
    ⟨_, _, (List.dropLast_concat_getLast some_name).symm⟩
  rw [follow_append] at h
  obtain ⟨base, -, hlast⟩ := bind_eq_ok.1 h
  have hbase := entry?_of_follow (by simp) hlast
  rw [follow, hbase] at hlast
  dsimp only at hlast
  split at hlast
  · cases hlast
    rw [hbase] at hnone
    cases hnone
  · rename_i hidle
    simp only [Bool.or_eq_true, decide_eq_true_eq, not_or] at hidle
    split at hlast
    · -- What is above a directory is a directory.
      cases hlast
      by_cases hroot : base = []
      · subst hroot
        cases hnone
      · have hsplit := List.dropLast_concat_getLast hroot
        have hdirectory := tree.directory_of_append (List.cons_ne_nil (base.getLast hroot) [])
          (show t.entry? (base.dropLast ++ [base.getLast hroot]) ≠ none by rw [hsplit, hbase]; simp)
        rw [hdirectory] at hnone
        cases hnone
    · rename_i hup
      split at hlast
      · cases hlast
      · cases hlast
        exact ⟨base, name, rfl, by simp, hidle.1, hidle.2, hup, by omega⟩

/-- An entry that is set has its location among the others. -/
theorem mem_setEntry {entry : Location × Entry} {es : List (Location × Entry)}
    (h : entry ∈ setEntry l e es) : entry = (l, e) ∨ entry ∈ es := by
  induction es with
  | nil => exact .inl (List.mem_singleton.1 h)
  | cons x es ih =>
    obtain ⟨k, old⟩ := x
    rw [setEntry] at h
    split at h
    · exact (List.mem_cons.1 h).imp_right (List.mem_cons_of_mem _)
    · rcases List.mem_cons.1 h with rfl | h
      · exact .inr List.mem_cons_self
      · exact (ih h).imp_right (List.mem_cons_of_mem _)

theorem nodup_keys_setEntry {es : List (Location × Entry)} (h : (es.map Prod.fst).Nodup) :
    ((setEntry l e es).map Prod.fst).Nodup := by
  induction es with
  | nil => exact List.nodup_singleton l
  | cons x es ih =>
    obtain ⟨k, old⟩ := x
    obtain ⟨hk, hes⟩ := List.nodup_cons.1 h
    rw [setEntry]
    split
    · rename_i hkl
      exact List.nodup_cons.2 ⟨hkl ▸ hk, hes⟩
    · rename_i hkl
      refine List.nodup_cons.2 ⟨fun hmem => ?_, ih hes⟩
      obtain ⟨entry, hentry, hfst⟩ := List.mem_map.1 hmem
      rcases mem_setEntry hentry with rfl | hold
      · exact hkl hfst.symm
      · exact hk (List.mem_map.2 ⟨entry, hold, hfst⟩)

namespace IsTree

/-- **An entry that is set keeps a tree** if it has a name in a directory and takes no directory's
place. -/
theorem put (tree : t.IsTree) (hl : l ≠ []) (hparent : t.entry? l.dropLast = some .directory)
    (hname : ∀ name ∈ l.getLast?, IsEntryName name)
    (kept : ∀ k, t.entry? k = some .directory → entry? (t.put l e) k = some .directory) :
    (t.put l e).IsTree := by
  refine ⟨nodup_keys_setEntry tree.distinct, fun entry hentry => ?_, fun entry hentry => ?_⟩
  · rcases mem_setEntry hentry with rfl | hold
    · exact ⟨hl, kept _ hparent⟩
    · exact (tree.inside entry hold).imp_right (kept _)
  · rcases mem_setEntry hentry with rfl | hold
    · exact hname
    · exact tree.named entry hold

/-- A new directory with a name of its own keeps a tree. -/
theorem put_directory (tree : t.IsTree) (hnone : t.entry? (l ++ [name]) = none)
    (hparent : t.entry? l = some .directory) (hname : IsEntryName name) :
    (t.put (l ++ [name]) .directory).IsTree := by
  have hparent : t.entry? (l ++ [name]).dropLast = some .directory := by
    rwa [List.dropLast_concat]
  refine tree.put (by simp) hparent (fun last hlast => ?_) fun _ =>
    (grown_put hnone hparent).directory
  rw [List.getLast?_concat] at hlast
  cases hlast
  exact hname

/-- Nothing is where a path leads but a name for it. -/
theorem exists_isEntryName (tree : t.IsTree) (h : t.locate path = .ok l)
    (hnone : t.entry? l = none) : ∃ base name, l = base ++ [name] ∧ IsEntryName name := by
  obtain ⟨⟨-, hnul, -⟩, hfollow⟩ := locate_eq_ok.1 h
  have hsome : Path.pieces path ≠ [] := by
    rw [Path.pieces_eq]
    exact List.splitOn_ne_nil _ _
  obtain ⟨base, name, rfl, hmem, hne, hdot, hup, hshort⟩ :=
    exists_name_of_follow tree (by simpa using hsome) hfollow hnone
  obtain ⟨piece, hpiece, rfl⟩ := List.mem_map.1 hmem
  rw [Path.pieces_eq] at hpiece
  refine ⟨base, _, rfl, ⟨hne, ?_, hdot, hup⟩, ?_, hshort⟩
  · rw [String.toList_ofList]
    exact Text.notMem_of_mem_splitOn hpiece
  · rw [String.toList_ofList]
    exact fun h => hnul (Text.mem_of_mem_splitOn hpiece h)

/-- **Creating a directory keeps a tree.** -/
theorem createDirectory (tree : t.IsTree) (h : t.createDirectory path = .ok t') : t'.IsTree := by
  rw [FileTree.createDirectory, bind_eq_ok] at h
  obtain ⟨l, hlocate, h⟩ := h
  split at h
  · cases h
  · rename_i hnone hparent
    cases h
    obtain ⟨base, name, rfl, hname⟩ := tree.exists_isEntryName hlocate hnone
    rw [List.dropLast_concat] at hparent
    exact tree.put_directory hnone hparent hname
  · cases h
  · cases h

/-- **Creating directories keeps a tree.** -/
theorem createDirectories (tree : t.IsTree) (h : t.createDirectories path = .ok t') : t'.IsTree :=
  createUpTo_induction (fun hu hcreate => hu.createDirectory hcreate) tree h

end IsTree

end FileTree

/-! ### What is loaded -/

variable {t t' : FileTree} {type root path : String} {roots paths : List String} {l : Location}
  {glob : Option Glob} {seen : List String} {suites suites' : List Suite} {s : Suite}

/-- What is loaded is loaded again if the same is read. -/
theorem loadSuite_of_reads
    (reads : ∀ path content, t.readBytes path = .ok content → t'.readBytes path = .ok content)
    (h : loadSuite t path = .ok s) : loadSuite t' path = .ok s := by
  obtain ⟨-, content, hread⟩ := exists_file_of_loadSuite h
  have htext : t'.readText path = t.readText path := by
    rw [FileTree.readText, FileTree.readText, hread, reads path content hread]
  rw [loadSuite, htext]
  exact h

/-- **The same suites are loaded if the same is read.** -/
theorem loadSuites_of_reads
    (reads : ∀ path content, t.readBytes path = .ok content → t'.readBytes path = .ok content)
    (h : loadSuites t glob seen paths = .ok suites) :
    loadSuites t' glob seen paths = .ok suites := by
  induction paths generalizing seen suites with
  | nil => exact h
  | cons path paths ih =>
    rw [loadSuites] at h
    cases hload : loadSuite t path with
    | error fault =>
      rw [hload] at h
      cases h
    | ok s =>
      rw [hload] at h
      rw [loadSuites, loadSuite_of_reads reads hload]
      dsimp only at h ⊢
      split at h
      · rw [if_pos ‹_›]
        exact ih h
      · rw [if_neg ‹_›]
        split at h
        · rw [if_pos ‹_›]
          exact ih h
        · rw [if_neg ‹_›]
          obtain ⟨rest, hrest, rfl⟩ := map_eq_ok.1 h
          rw [ih hrest]
          rfl

/-- Every path is loaded. -/
theorem loads_of_loadSuites (h : loadSuites t glob seen paths = .ok suites) :
    ∀ p ∈ paths, ∃ s, loadSuite t p = .ok s := by
  induction paths generalizing seen suites with
  | nil => simp
  | cons path paths ih =>
    rw [loadSuites] at h
    cases hload : loadSuite t path with
    | error fault =>
      rw [hload] at h
      cases h
    | ok s =>
      rw [hload] at h
      have hrest : ∃ seen suites, loadSuites t glob seen paths = .ok suites := by
        dsimp only at h
        split at h
        · exact ⟨_, _, h⟩
        · split at h
          · exact ⟨_, _, h⟩
          · obtain ⟨rest, hrest, -⟩ := map_eq_ok.1 h
            exact ⟨_, _, hrest⟩
      obtain ⟨seen', suites', hrest⟩ := hrest
      exact List.forall_mem_cons.2 ⟨⟨s, hload⟩, ih hrest⟩

/-! ### What is found -/

/-- **What one walk comes by, the other does, too**, if everything that it comes by is loaded and
all files are there. -/
theorem suiteWalk_subset (tree : t.IsTree) (tree' : t'.IsTree)
    (hroot : t.find root = .ok (l, .directory)) (hroot' : t'.find root = .ok (l, .directory))
    (keeps : ∀ k content, t.entry? k = some (.file content) → t'.entry? k = some (.file content))
    (loads : ∀ names ∈ suiteWalk t type root, ∃ s, loadSuite t (Path.joinAll root names) = .ok s) :
    suiteWalk t type root ⊆ suiteWalk t' type root := by
  intro names hmem
  obtain ⟨s, hs⟩ := loads names hmem
  obtain ⟨hshort, -⟩ := exists_file_of_loadSuite hs
  obtain ⟨hwalk, htype⟩ := List.mem_filter.1 hmem
  obtain ⟨e, hleads, hseen, hsuite⟩ := leads_of_mem_namesBelow tree hroot hwalk
  have hfind := FileTree.find_joinAll tree hroot hleads.entry hshort
  cases e with
  | directory =>
    rw [FileTree.isDirectory, hfind] at hseen
    cases hseen
  | file content =>
    have hentry := keeps _ _ hleads.entry
    have hlength := tree'.length_le (l := l ++ names) (by rw [hentry]; simp)
    rw [List.length_append] at hlength
    refine List.mem_filter.2 ⟨mem_namesBelow_of_leads tree' hroot'
      ⟨hleads.some_name, hentry, hleads.visible⟩ hshort hsuite (by omega), htype⟩

theorem FileTree.Grown.find {e : Entry} (grown : t.Grown t') (h : t.find path = .ok (l, e)) :
    t'.find path = .ok (l, e) := by
  obtain ⟨hlocate, hentry⟩ := FileTree.find_eq_ok.1 h
  obtain ⟨hpath, hfollow⟩ := FileTree.locate_eq_ok.1 hlocate
  refine FileTree.find_eq_ok.2 ⟨FileTree.locate_eq_ok.2 ⟨hpath, ?_⟩, ?_⟩
  · rw [FileTree.origin, grown.working]
    exact FileTree.follow_of_directories (fun k => grown.directory) hfollow
  · rcases grown.entries l with heq | ⟨hnone, -⟩
    · rw [heq, hentry]
    · rw [hentry] at hnone
      cases hnone

/-- **At a search path the same is found** before and after directories were created. -/
theorem pathsAt_of_grown (grown : t.Grown t') (tree : t.IsTree) (tree' : t'.IsTree)
    (hexists : t.exists? root = true)
    (loads : ∀ p ∈ (pathsAt t root).filter (hasType type), ∃ s, loadSuite t p = .ok s)
    (loads' : ∀ p ∈ (pathsAt t' root).filter (hasType type), ∃ s, loadSuite t' p = .ok s) :
    (pathsAt t' root).filter (hasType type) = (pathsAt t root).filter (hasType type) := by
  obtain ⟨l, e, hroot⟩ := FileTree.find_of_exists? hexists
  have hroot' := grown.find hroot
  cases e with
  | file content =>
    have hfile : t.isFile root = true := by rw [FileTree.isFile, hroot]
    have hfile' : t'.isFile root = true := by rw [FileTree.isFile, hroot']
    rw [pathsAt_of_isFile hfile, pathsAt_of_isFile hfile']
  | directory =>
    rw [pathsAt_filter_eq hroot] at loads ⊢
    rw [pathsAt_filter_eq hroot'] at loads' ⊢
    have hsubset := suiteWalk_subset tree tree' hroot hroot' (fun _ _ => grown.file_iff.2)
      fun names hnames => loads _ (List.mem_map_of_mem hnames)
    have hsubset' := suiteWalk_subset tree' tree hroot' hroot (fun _ _ => grown.file_iff.1)
      fun names hnames => loads' _ (List.mem_map_of_mem hnames)
    -- Both walks are in order, so that they are the same if they come by the same.
    have heq : suiteWalk t' type root = suiteWalk t type root :=
      hsubset'.antisymm_of_pairwise ((pairwise_namesBelow tree' hroot').filter _)
        ((pairwise_namesBelow tree hroot).filter _) hsubset
    rw [heq]

/-- The paths of the suite files that are given, or else of those that are selected. -/
def pathsToLoad (t : FileTree) (selection : Selection) (given : Option (List String)) :
    Except DiscoveryFault (List String) :=
  match given with
  | some paths => .ok paths
  | none => (suitePaths t selection.searchPaths).map (·.filter (hasType selection.testType))

/-- A search reads the pattern, looks for paths, loads them and sorts what is loaded. -/
theorem discover_eq (t : FileTree) (selection : Selection) (given : Option (List String)) :
    discover t selection given = selection.glob >>= fun glob =>
      pathsToLoad t selection given >>= fun paths =>
        (loadSuites t glob [] paths).map sortSuites := by
  cases given <;> rfl

theorem discover_eq_ok {selection : Selection} {given : Option (List String)} :
    discover t selection given = .ok suites ↔ ∃ glob, selection.glob = .ok glob ∧
      ∃ paths, pathsToLoad t selection given = .ok paths ∧
        ∃ loaded, loadSuites t glob [] paths = .ok loaded ∧ sortSuites loaded = suites := by
  rw [discover_eq, bind_eq_ok]
  simp only [bind_eq_ok, map_eq_ok]

/-- **Two searches that succeed, before and after directories were created, find the same
suites.** -/
theorem discover_of_grown {selection : Selection} {given : Option (List String)}
    (grown : t.Grown t') (tree : t.IsTree) (tree' : t'.IsTree)
    (h : discover t selection given = .ok suites)
    (h' : discover t' selection given = .ok suites') : suites' = suites := by
  obtain ⟨glob, hglob, paths, hpaths, loaded, hloaded, rfl⟩ := discover_eq_ok.1 h
  obtain ⟨glob', hglob', paths', hpaths', loaded', hloaded', rfl⟩ := discover_eq_ok.1 h'
  cases hglob.symm.trans hglob'
  have loads := loads_of_loadSuites hloaded
  have loads' := loads_of_loadSuites hloaded'
  have hsame : paths' = paths := by
    cases given with
    | some given => exact Except.ok.inj (hpaths'.symm.trans hpaths)
    | none =>
      obtain ⟨found, hfound, rfl⟩ := map_eq_ok.1 hpaths
      obtain ⟨found', hfound', rfl⟩ := map_eq_ok.1 hpaths'
      obtain ⟨hexists, rfl⟩ := suitePaths_eq_ok.1 hfound
      obtain ⟨-, rfl⟩ := suitePaths_eq_ok.1 hfound'
      rw [List.filter_flatMap] at loads loads' ⊢
      rw [List.filter_flatMap, List.flatMap_def, List.flatMap_def]
      congr 1
      refine List.map_congr_left fun root hroot => ?_
      exact pathsAt_of_grown grown tree tree' (hexists root hroot)
        (fun p hp => loads p (List.mem_flatMap.2 ⟨root, hroot, hp⟩))
        fun p hp => loads' p (List.mem_flatMap.2 ⟨root, hroot, hp⟩)
  have hagain := loadSuites_of_reads (fun _ _ => grown.readBytes) hloaded
  rw [hsame] at hloaded'
  cases hagain.symm.trans hloaded'
  rfl

end SuiteRunner
