import Mathlib.Data.List.Sort
import SuiteRunner.Proofs.CreatedDirectories
import SuiteRunner.Proofs.RunRecords
import SuiteRunner.Proofs.RunStores
import SuiteRunner.Proofs.SearchAgain

/-!
# The list of saved runs

The list has the run of every file in the directory that is called like a run and holds one, the
latest run first.  The order in which the names of the files come matters only between runs that
have both the start and the name in common.

* `FileTree.IsTree.write` — a file that is written has a name like all entries;
* `StoredRun.Later`, the order of runs, and `RunStore.Lists`, what a list of runs is;
* `RunStore.lists_found`, `RunStore.runsIn_eq_of_perm` — the list, from names in any order;
* `RunStore.read?_of_save` and `RunStore.read?_iff_of_save` — saving changes what is read from one
  file;
* **`RunStore.saved_runs_listed`** — all runs are listed, and a run that was saved later than all
  others is the latest if its file is one of those that are listed.
-/

namespace SuiteRunner

namespace FileTree

variable {t t' : FileTree} {path : String} {content : Bytes}

/-! ### Trees in which a file is written -/

/-- **Writing a file keeps a tree.** -/
theorem IsTree.write (tree : t.IsTree) (h : t.write path content = .ok t') : t'.IsTree := by
  obtain ⟨k, hk, same, -⟩ := sameBut_of_write h
  rw [FileTree.write, map_eq_ok] at h
  obtain ⟨l, htarget, rfl⟩ := h
  obtain ⟨-, hlocate, hparent, hne⟩ := target_eq_ok.1 htarget
  obtain rfl : k = l := Except.ok.inj (hk.symm.trans hlocate)
  refine tree.put (ne_root hne) hparent (fun name hname => ?_) fun _ => same.directory_iff.2
  by_cases hnone : t.entry? k = none
  · obtain ⟨base, last, rfl, hlast⟩ := tree.exists_isEntryName hlocate hnone
    rw [List.getLast?_concat] at hname
    cases hname
    exact hlast
  · have hsplit : k.dropLast ++ [name] = k := List.dropLast_append_getLast? name hname
    rw [← hsplit] at hnone
    exact (tree.of_entry hnone).2

end FileTree

/-! ### Later runs -/

namespace StoredRun

variable {a b : StoredRun}

/-- The run started after the other one, or at the same time and has the greater name. -/
def Later (a b : StoredRun) : Prop :=
  a.startedAt.le b.startedAt = false ∨ a.startedAt = b.startedAt ∧ b.id < a.id

instance (a b : StoredRun) : Decidable (a.Later b) := inferInstanceAs (Decidable (_ ∨ _))

/-- What a list compares runs by. -/
def key (r : StoredRun) : Instant × String := (r.startedAt, r.id)

/-- A run comes before those that are not later. -/
theorem precedes_eq_false : b.precedes a = false ↔ a.Later b := by
  rw [Later, precedes]
  split
  · rename_i heq
    have hle : b.startedAt.le b.startedAt = true := by
      simpa using Instant.le_total b.startedAt b.startedAt
    rw [← heq]
    simp [hle]
  · rename_i hne
    simp [Ne.symm hne]

theorem not_later_self (a : StoredRun) : ¬ a.Later a := by
  rw [← precedes_eq_false, Bool.not_eq_false]
  simpa using precedes_total a a

/-- Runs of which neither comes after the other have the start and the name in common. -/
theorem key_eq_of_precedes (hab : a.precedes b = true) (hba : b.precedes a = true) :
    a.key = b.key := by
  rw [precedes_iff] at hab hba
  rcases hab with ⟨hstart, hid⟩ | ⟨hne, hle⟩
  · have hid' := (hba.resolve_right fun h => h.1 hstart.symm).2
    rw [key, key, hstart, String.toList_inj.1 (le_antisymm hid' hid)]
  · have hle' := (hba.resolve_left fun h => hne h.1.symm).2
    exact absurd (Instant.le_antisymm hle' hle) hne

end StoredRun

namespace RunStore

variable {store : RunStore} {files files' made : FileTree} {l : Location} {r run : StoredRun}
  {runs : List StoredRun} {path name saved : String} {names names' : List String}

/-! ### What is listed -/

/-- What the file of a run is called: a name with the extension. -/
def IsRunFile (name : String) : Prop := '/' ∉ name.toList ∧ ∃ id, id ≠ "" ∧ name = id ++ ".json"

/-- The list has the run of every file at a location that is called like a run and holds one.  The
runs come with the names of their files, each file once, and no run comes after one that is not as
late. -/
structure Lists (store : RunStore) (files : FileTree) (l : Location)
    (found : List (String × StoredRun)) : Prop where
  distinct : (found.map Prod.fst).Nodup
  mem_iff : ∀ name run, (name, run) ∈ found ↔ files.entry? (l ++ [name]) ≠ none ∧
    IsRunFile name ∧ read? files (Path.join store.dir name) = some run
  ordered : (found.map Prod.snd).Pairwise fun a b => ¬ b.Later a

theorem IsRunFile.isName (h : IsRunFile name) : Path.IsName name := by
  obtain ⟨hplain, id, -, rfl⟩ := h
  refine Path.isName_append (fun hmem => hplain ?_) (by decide) (by decide)
  rw [String.toList_append]
  exact List.mem_append_left _ hmem

/-- The files that are listed are told by their extension. -/
theorem extension?_eq_json (hname : Path.IsName name) :
    Path.extension? (Path.join store.dir name) = some "json" ↔ IsRunFile name := by
  constructor
  · intro h
    rw [Path.extension?, Path.name?_join _ hname, Option.bind_some, Option.map_eq_some_iff] at h
    obtain ⟨ext, hext, hjson⟩ := h
    obtain ⟨stem, hsplit⟩ : ∃ stem, Path.splitName name.toList = (stem, some ext) :=
      ⟨_, Prod.ext rfl hext⟩
    obtain ⟨hstem, -, htext⟩ := Path.splitName_eq_some.1 hsplit
    refine ⟨hname.2.1, String.ofList stem, fun h => hstem ?_, String.toList_inj.1 ?_⟩
    · simpa using congrArg String.toList h
    · rw [htext, String.toList_append, String.toList_ofList, ← String.toList_ofList (l := ext),
        hjson]
      rfl
  · rintro ⟨-, id, some_id, rfl⟩
    exact extension?_path some_id hname

/-- The run of a file, with the name of the file. -/
def runOf? (store : RunStore) (files : FileTree) (name : String) : Option (String × StoredRun) :=
  if Path.extension? (Path.join store.dir name) = some "json" then
    (read? files (Path.join store.dir name)).map (Prod.mk name)
  else none

/-- The runs of files, with the names of the files. -/
def found (store : RunStore) (files : FileTree) (names : List String) :
    List (String × StoredRun) :=
  (names.filterMap (store.runOf? files)).mergeSort fun a b => a.2.precedes b.2

theorem runOf?_eq_some {entry : String × StoredRun} : store.runOf? files name = some entry ↔
    Path.extension? (Path.join store.dir name) = some "json" ∧ entry.1 = name ∧
      read? files (Path.join store.dir name) = some entry.2 := by
  obtain ⟨name', run⟩ := entry
  rw [runOf?, Option.ite_none_right_eq_some, Option.map_eq_some_iff]
  simp only [Prod.mk.injEq]
  constructor
  · rintro ⟨hjson, run', hread, rfl, rfl⟩
    exact ⟨hjson, rfl, hread⟩
  · rintro ⟨hjson, rfl, hread⟩
    exact ⟨hjson, run, hread, rfl, rfl⟩

/-- A list is sorted with the names of the files or without them. -/
theorem map_snd_found (store : RunStore) (files : FileTree) (names : List String) :
    (store.found files names).map Prod.snd = store.runsIn files names := by
  rw [found, List.map_mergeSort (f := Prod.snd) (s := StoredRun.precedes) fun _ _ _ _ => rfl,
    List.map_filterMap, runsIn, List.filter_map, List.filterMap_map, List.filterMap_filter]
  refine congrArg (List.mergeSort · _) (List.filterMap_congr fun name _ => ?_)
  rw [runOf?]
  simp only [Function.comp_apply, decide_eq_true_eq]
  split <;> simp

/-- **The list of the runs in a directory**, in whatever order the names of the files come. -/
theorem lists_found (tree : files.IsTree) (perm : names.Perm (files.namesIn l)) :
    store.Lists files l (store.found files names) where
  distinct := by
    have hnames : names.Nodup :=
      perm.nodup_iff.2 ((tree.pairwise_namesIn l).imp fun h heq => absurd (heq ▸ h) (lt_irrefl _))
    rw [found, ((List.mergeSort_perm _ _).map Prod.fst).nodup_iff, List.map_filterMap]
    refine hnames.filterMap fun a a' b ha ha' => ?_
    obtain ⟨entry, hentry, rfl⟩ := Option.map_eq_some_iff.1 ha
    obtain ⟨entry', hentry', heq⟩ := Option.map_eq_some_iff.1 ha'
    rw [← (runOf?_eq_some.1 hentry).2.1, ← (runOf?_eq_some.1 hentry').2.1, heq]
  mem_iff name run := by
    rw [found, List.mem_mergeSort, List.mem_filterMap, ← FileTree.mem_namesIn]
    simp only [runOf?_eq_some, perm.mem_iff]
    constructor
    · rintro ⟨name', hmem, hjson, rfl, hread⟩
      have hname := (tree.of_entry (FileTree.mem_namesIn.1 hmem)).2.1
      exact ⟨hmem, (extension?_eq_json hname).1 hjson, hread⟩
    · rintro ⟨hmem, hfile, hread⟩
      exact ⟨name, hmem, (extension?_eq_json hfile.isName).2 hfile, rfl, hread⟩
  ordered := by
    rw [map_snd_found, runsIn]
    refine (List.pairwise_mergeSort StoredRun.precedes_trans StoredRun.precedes_total _).imp
      fun h hlater => ?_
    rw [StoredRun.precedes_eq_false.2 hlater] at h
    cases h

/-- **The order in which the names come does not matter** if no two runs have the start and the
name in common. -/
theorem runsIn_eq_of_perm (perm : names.Perm names')
    (distinct : ((store.runsIn files names).map StoredRun.key).Nodup) :
    store.runsIn files names' = store.runsIn files names := by
  have hruns : (store.runsIn files names').Perm (store.runsIn files names) := by
    rw [runsIn, runsIn]
    have hpaths := (perm.symm.map (Path.join store.dir)).filter
      fun p => Path.extension? p = some "json"
    exact (List.mergeSort_perm _ _).trans ((hpaths.filterMap _).trans (List.mergeSort_perm _ _).symm)
  have hsorted : ∀ names, (store.runsIn files names).Pairwise fun a b => a.precedes b = true :=
    fun _ => List.pairwise_mergeSort StoredRun.precedes_trans StoredRun.precedes_total _
  refine hruns.eq_of_pairwise (fun a b ha hb hab hba => ?_) (hsorted names') (hsorted names)
  exact List.inj_on_of_nodup_map distinct (hruns.mem_iff.1 ha) hb
    (StoredRun.key_eq_of_precedes hab hba)

/-- A run is listed if a file that is called like a run holds it. -/
theorem mem_runsIn (tree : files.IsTree) (nonempty : store.dir ≠ "")
    (hdir : files.find store.dir = .ok (l, .directory)) :
    run ∈ store.runsIn files (files.namesIn l) ↔
      ∃ name, IsRunFile name ∧ read? files (Path.join store.dir name) = some run := by
  have lists : store.Lists files l (store.found files (files.namesIn l)) :=
    lists_found tree (.refl _)
  rw [← map_snd_found, List.mem_map]
  constructor
  · rintro ⟨⟨name, run⟩, hmem, rfl⟩
    exact ⟨name, ((lists.mem_iff name run).1 hmem).2⟩
  · rintro ⟨name, hfile, hread⟩
    obtain ⟨l', hdir', hmem⟩ := exists_find_dir nonempty hfile.isName hread
    rw [hdir] at hdir'
    cases hdir'
    exact ⟨(name, run), (lists.mem_iff name run).2 ⟨FileTree.mem_namesIn.1 hmem, hfile, hread⟩, rfl⟩

/-! ### Runs that are saved -/

/-- A run is saved if its directory is created and its file may be written there. -/
theorem save_eq_put (hmade : files.createDirectories store.dir = .ok made)
    (htarget : made.target (store.path r.id) = .ok l) : store.save files r =
      .ok (store.path r.id, made.put l (.file (Utf8.encode (content r).toList))) := by
  have hwrite : made.write (store.path r.id) (Utf8.encode (content r).toList) =
      .ok (made.put l (.file (Utf8.encode (content r).toList))) := by
    rw [FileTree.write, htarget]
    rfl
  simp only [save, hmade, hwrite, Except.mapError, bind, Except.bind]
  rfl

section Saved

variable (hmade : files.createDirectories store.dir = .ok made)
  (hsave : store.save files r = .ok (saved, files'))

include hmade hsave

/-- Saving a run writes its file. -/
theorem write_of_save : saved = store.path r.id ∧
    made.write saved (Utf8.encode (content r).toList) = .ok files' := by
  obtain ⟨made', hmade', hwrite, rfl⟩ := save_eq_ok hsave
  obtain rfl : made' = made := Except.ok.inj (hmade'.symm.trans hmade)
  exact ⟨rfl, hwrite⟩

/-- **A run that was saved is read from its file.** -/
theorem read?_of_save (keeps : r.Keeps) (same : files'.SamePlace path saved) :
    read? files' path = some r := by
  obtain ⟨-, hwrite⟩ := write_of_save hmade hsave
  obtain ⟨k, hlocate, hbut, hentry⟩ := FileTree.sameBut_of_write hwrite
  obtain ⟨k', hpath, hsaved⟩ := same
  obtain rfl : k = k' := Except.ok.inj ((hbut.locate_iff.2 hlocate).symm.trans hsaved)
  exact read?_of_content (FileTree.readBytes_eq_ok.2 ⟨k, hpath, hentry⟩) keeps

/-- **Every other file is read as it was.** -/
theorem read?_iff_of_save (apart : ¬ files'.SamePlace path saved) :
    read? files' path = some run ↔ read? made path = some run := by
  obtain ⟨-, hwrite⟩ := write_of_save hmade hsave
  obtain ⟨k, hlocate, hbut, -⟩ := FileTree.sameBut_of_write hwrite
  have hsaved := hbut.locate_iff.2 hlocate
  have hpath' : files'.locate path ≠ .ok k := fun h => apart ⟨k, h, hsaved⟩
  have hpath : made.locate path ≠ .ok k := fun h => hpath' (hbut.locate_iff.2 h)
  rw [read?_eq_some, read?_eq_some]
  refine exists_congr fun bytes => exists_congr fun text => exists_congr fun n =>
    and_congr_left fun _ => ⟨fun h => ?_, fun h => ?_⟩
  · exact hbut.symm.readBytes_of_ne h hpath'
  · exact hbut.readBytes_of_ne h hpath

/-- **A run that was saved later than all others is the latest** if its file is listed. -/
theorem latest?_of_save (tree : files.IsTree) (nonempty : store.dir ≠ "")
    (bare : store.dir.toList.getLast? ≠ some '/') (keeps : r.Keeps)
    (hlist : store.list made = .ok runs) (newest : ∀ other ∈ runs, r.Later other) :
    store.latest? files' = .ok (some r) ↔
      ∃ name, IsRunFile name ∧ files'.SamePlace (Path.join store.dir name) saved := by
  obtain ⟨-, hwrite⟩ := write_of_save hmade hsave
  have treeMade : made.IsTree := tree.createDirectories hmade
  obtain ⟨l, hdir⟩ := FileTree.isDirectory_iff.1
    (FileTree.isDirectory_of_createDirectories bare nonempty hmade)
  obtain ⟨k, -, hbut, -⟩ := FileTree.sameBut_of_write hwrite
  obtain ⟨hlocate, hdirectory⟩ := FileTree.find_eq_ok.1 hdir
  have hdir' : files'.find store.dir = .ok (l, .directory) :=
    FileTree.find_eq_ok.2 ⟨hbut.locate_iff.2 hlocate, hbut.directory_iff.2 hdirectory⟩
  obtain rfl : store.runsIn made (made.namesIn l) = runs :=
    Except.ok.inj ((list_eq hdir).symm.trans hlist)
  have hmem' : ∀ run, run ∈ store.runsIn files' (files'.namesIn l) ↔
      ∃ name, IsRunFile name ∧ read? files' (Path.join store.dir name) = some run :=
    fun _ => mem_runsIn (treeMade.write hwrite) nonempty hdir'
  -- All that is listed but the run itself was there before.
  have hold : ∀ other name, IsRunFile name → ¬ files'.SamePlace (Path.join store.dir name) saved →
      read? files' (Path.join store.dir name) = some other → r.Later other := by
    intro other name hfile apart hread
    rw [read?_iff_of_save hmade hsave apart] at hread
    exact newest other ((mem_runsIn treeMade nonempty hdir).2 ⟨name, hfile, hread⟩)
  rw [latest?, list_eq hdir', Except.map, Except.ok.injEq]
  constructor
  · intro hhead
    obtain ⟨name, hfile, hread⟩ := (hmem' r).1 (List.mem_of_head? hhead)
    refine ⟨name, hfile, by_contra fun apart => ?_⟩
    exact StoredRun.not_later_self r (hold r name hfile apart hread)
  · rintro ⟨name, hfile, same⟩
    have hread := read?_of_save hmade hsave keeps same
    have hmem := (hmem' r).2 ⟨name, hfile, hread⟩
    rw [runsIn, List.mem_mergeSort] at hmem
    refine StoredRun.head?_mergeSort hmem fun other hother hne => ?_
    obtain ⟨name', hfile', hread'⟩ := (hmem' other).1 (List.mem_mergeSort.2 hother)
    refine StoredRun.precedes_eq_false.2 (hold other name' hfile' (fun same' => hne ?_) hread')
    exact Option.some.inj (hread'.symm.trans (read?_of_save hmade hsave keeps same'))

end Saved

theorem bare_ofOutput (outputDir : String) :
    (ofOutput outputDir).dir.toList.getLast? ≠ some '/' := by
  rw [ofOutput, Path.toList_join outputDir (by decide), List.getLast?_append,
    show "runs".toList.getLast? = some 's' from rfl]
  simp

/-- **All runs are listed.**  The list has the runs of the files in the directory that hold one, the
latest first, and depends on the order of the files only if two runs have the start and the name in
common.  A run that is saved later than all others in the directory is the latest one if its file is
listed, as it is if the run has a name without slashes, and so for every name that a run gets. -/
theorem saved_runs_listed (outputDir : String) (tree : files.IsTree) :
    let store := RunStore.ofOutput outputDir
    (files.exists? store.dir = false → store.list files = .ok []) ∧
    (∀ l, files.find store.dir = .ok (l, .directory) →
      store.list files = .ok (store.runsIn files (files.namesIn l)) ∧
      ∀ names, names.Perm (files.namesIn l) →
        (∃ found, store.Lists files l found ∧
          found.map Prod.snd = store.runsIn files names) ∧
        (((store.runsIn files names).map StoredRun.key).Nodup →
          store.list files = .ok (store.runsIn files names))) ∧
    (∀ runs, store.list files = .ok runs → store.latest? files = .ok runs.head?) ∧
    (files.isDirectory store.dir = true → files.createDirectories store.dir = .ok files) ∧
    ∀ made runs r saved files', files.createDirectories store.dir = .ok made →
      store.list made = .ok runs → r.Keeps → (∀ other ∈ runs, r.Later other) →
      store.save files r = .ok (saved, files') →
        (store.latest? files' = .ok (some r) ↔
          ∃ name, IsRunFile name ∧ files'.SamePlace (Path.join store.dir name) saved) ∧
        (r.id ≠ "" → '/' ∉ r.id.toList → store.latest? files' = .ok (some r)) ∧
        ∀ t n, r.id = StoredRun.nameAt t n → store.latest? files' = .ok (some r) := by
  intro store
  have nonempty : store.dir ≠ "" := dir_ofOutput_ne_empty outputDir
  have bare : store.dir.toList.getLast? ≠ some '/' := bare_ofOutput outputDir
  refine ⟨fun habsent => ?_, fun l hdir => ⟨list_eq hdir, fun names perm => ⟨?_, ?_⟩⟩,
    fun runs hlist => ?_, FileTree.createDirectories_of_isDirectory bare, ?_⟩
  · rw [list, habsent]
    rfl
  · exact ⟨_, lists_found tree perm, map_snd_found store files names⟩
  · intro distinct
    rw [list_eq hdir, runsIn_eq_of_perm perm distinct]
  · rw [latest?, hlist]
    rfl
  · intro made runs r saved files' hmade hlist keeps newest hsave
    have latest := latest?_of_save hmade hsave tree nonempty bare keeps hlist newest
    have of_name : r.id ≠ "" → '/' ∉ (r.id ++ ".json").toList →
        store.latest? files' = .ok (some r) := by
      intro some_id plain
      refine latest.2 ⟨r.id ++ ".json", ⟨plain, r.id, some_id, rfl⟩, ?_⟩
      obtain ⟨rfl, hwrite⟩ := write_of_save hmade hsave
      exact FileTree.samePlace_self (FileTree.readBytes_write_self hwrite)
    refine ⟨latest, fun some_id plain => of_name some_id ?_, fun t n hid => ?_⟩
    · rw [String.toList_append, List.mem_append, not_or]
      exact ⟨plain, by decide⟩
    · rw [hid] at of_name
      exact of_name (StoredRun.nameAt_ne_empty t n) (StoredRun.isName_nameAt t n).2.1

/-! ### Some runs -/

/-- A run of no suites. -/
def idleRun (id : String) : StoredRun where
  id := id
  startedAt := ⟨1772368200, 0⟩
  completedAt := ⟨1772370000, 0⟩
  summary := ⟨[], ⟨0, 0, 0, 0, 0, 0⟩, false⟩
  config := .standard
  platform := ⟨"linux", "x86_64", "0.1.0"⟩

theorem idleRun_keeps (id : String) : (idleRun id).Keeps where
  startedAt := (by decide +kernel : Instant.Reads ⟨1772368200, 0⟩)
  completedAt := (by decide +kernel : Instant.Reads ⟨1772370000, 0⟩)
  summary := ⟨nofun, by constructor <;> exact Nat.zero_le _⟩
  config := by constructor <;> simp [idleRun, Config.standard, Numeral.max32, Numeral.max64]

/-- A file that holds a run. -/
def fileOf (id : String) : Entry := .file (Utf8.encode (content (idleRun id)).toList)

/-- Two runs that started at the same time, and a file that holds none. -/
def twoRuns : FileTree where
  entries := [(["o"], .directory), (["o", "runs"], .directory),
    (["o", "runs", "a.json"], fileOf "a"), (["o", "runs", "b.json"], fileOf "b"),
    (["o", "runs", "c.json"], .file (Utf8.encode ['\x7b']))]
  working := []

theorem read?_twoRuns : read? twoRuns "o/runs/a.json" = some (idleRun "a") ∧
    read? twoRuns "o/runs/b.json" = some (idleRun "b") ∧
    read? twoRuns "o/runs/c.json" = none := by
  have ha : twoRuns.readBytes "o/runs/a.json" =
      .ok (Utf8.encode (content (idleRun "a")).toList) :=
    FileTree.readBytes_eq_ok.2 ⟨["o", "runs", "a.json"],
      toOption_eq_some.1 (by decide +kernel), by rfl⟩
  have hb : twoRuns.readBytes "o/runs/b.json" =
      .ok (Utf8.encode (content (idleRun "b")).toList) :=
    FileTree.readBytes_eq_ok.2 ⟨["o", "runs", "b.json"],
      toOption_eq_some.1 (by decide +kernel), by rfl⟩
  exact ⟨read?_of_content ha (idleRun_keeps "a"), read?_of_content hb (idleRun_keeps "b"),
    by decide +kernel⟩

theorem runsIn_twoRuns : (ofOutput "o").runsIn twoRuns ["c.json", "b.json", "a.json"] =
    [idleRun "b", idleRun "a"] := by
  obtain ⟨ha, hb, hc⟩ := read?_twoRuns
  have hpaths : (["c.json", "b.json", "a.json"].map (Path.join (ofOutput "o").dir)).filter
      (fun p => Path.extension? p = some "json") =
        ["o/runs/c.json", "o/runs/b.json", "o/runs/a.json"] := by decide +kernel
  rw [runsIn, hpaths, List.filterMap_cons_none hc, List.filterMap_cons_some hb,
    List.filterMap_cons_some ha, List.filterMap_nil]
  exact List.mergeSort_of_pairwise (by decide +kernel)

/-- The names come in any order, and a third run takes the place of the file that holds none. -/
theorem thirdRun_latest :
    twoRuns.IsTree ∧ (ofOutput "p").list twoRuns = .ok [] ∧
    (ofOutput "o").list twoRuns = .ok [idleRun "b", idleRun "a"] ∧
    (ofOutput "o").runsIn twoRuns ["c.json", "b.json", "a.json"] = [idleRun "b", idleRun "a"] ∧
    ∃ files', (ofOutput "o").save twoRuns (idleRun "c") = .ok ("o/runs/c.json", files') ∧
      (ofOutput "o").latest? files' = .ok (some (idleRun "c")) := by
  have tree : twoRuns.IsTree := ⟨by decide +kernel, by decide +kernel, by decide +kernel⟩
  have hdir : twoRuns.find (ofOutput "o").dir = .ok (["o", "runs"], .directory) :=
    toOption_eq_some.1 (by decide +kernel)
  have hnames : ["c.json", "b.json", "a.json"].Perm (twoRuns.namesIn ["o", "runs"]) := by
    rw [FileTree.namesIn]
    exact (List.reverse_perm ["a.json", "b.json", "c.json"]).trans (List.mergeSort_perm _ _).symm
  obtain ⟨-, hthere, -, hcreate, hsaved⟩ := saved_runs_listed "o" tree
  have hlist := ((hthere _ hdir).2 _ hnames).2 (by rw [runsIn_twoRuns]; decide +kernel)
  rw [runsIn_twoRuns] at hlist
  have hmade := hcreate (by decide +kernel)
  have htarget : twoRuns.target ((ofOutput "o").path "c") = .ok ["o", "runs", "c.json"] :=
    toOption_eq_some.1 (by decide +kernel)
  have hpath : (ofOutput "o").path "c" = "o/runs/c.json" := by decide +kernel
  have hsave := save_eq_put (r := idleRun "c") hmade htarget
  have hlatest := (hsaved _ _ _ _ _ hmade hlist (idleRun_keeps "c") (by decide +kernel)
    hsave).2.1 (by decide) (by decide)
  exact ⟨tree, (saved_runs_listed "p" tree).1 (by decide +kernel), hlist, runsIn_twoRuns, _,
    hpath ▸ hsave, hlatest⟩

/-- What is left when a run without a name was saved where nothing was. -/
def namelessRun : FileTree where
  entries := [(["o"], .directory), (["o", "runs"], .directory), (["o", "runs", ".json"], fileOf "")]
  working := []

/-- **The run without a name is not the latest.**  Its file is called `.json`, which is a name
without an extension. -/
theorem namelessRun_not_latest :
    (idleRun "").Keeps ∧ (ofOutput "o").list ⟨[], []⟩ = .ok [] ∧
    (ofOutput "o").save ⟨[], []⟩ (idleRun "") = .ok ("o/runs/.json", namelessRun) ∧
    (ofOutput "o").list namelessRun = .ok [] ∧ (ofOutput "o").latest? namelessRun = .ok none := by
  have hmade : FileTree.createDirectories ⟨[], []⟩ (ofOutput "o").dir =
      .ok ⟨[(["o"], .directory), (["o", "runs"], .directory)], []⟩ := by rfl
  have htarget : FileTree.target ⟨[(["o"], .directory), (["o", "runs"], .directory)], []⟩
      ((ofOutput "o").path "") = .ok ["o", "runs", ".json"] :=
    toOption_eq_some.1 (by decide +kernel)
  have hpath : (ofOutput "o").path "" = "o/runs/.json" := by decide +kernel
  have hsave := save_eq_put (r := idleRun "") hmade htarget
  have hdir : namelessRun.find (ofOutput "o").dir = .ok (["o", "runs"], .directory) :=
    toOption_eq_some.1 (by decide +kernel)
  have hnames : namelessRun.namesIn ["o", "runs"] = [".json"] :=
    List.mergeSort_of_pairwise (by decide +kernel)
  have hpaths : ([".json"].map (Path.join (ofOutput "o").dir)).filter
      (fun p => Path.extension? p = some "json") = [] := by decide +kernel
  have hlist : (ofOutput "o").list namelessRun = .ok [] := by
    rw [list_eq hdir, hnames, runsIn, hpaths, List.filterMap_nil, List.mergeSort_nil]
  refine ⟨idleRun_keeps "", by rfl, hpath ▸ hsave, hlist, ?_⟩
  rw [latest?, hlist]
  rfl

end RunStore

end SuiteRunner
