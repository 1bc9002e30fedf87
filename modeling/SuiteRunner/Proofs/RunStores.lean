import Mathlib.Data.String.Basic
import SuiteRunner.Proofs.SavedRuns
import SuiteRunner.Proofs.SuiteNames
import SuiteRunner.Proofs.SuiteWalk

/-!
# The runs of a store

A store has one file for each run, which is called after the run.  The lists of a store are in
order, so the latest run is the one that no other run comes before.

* `StoredRun.isName_nameAt` — the name that a run gets is the name of a file;
* `StoredRun.head?_mergeSort` — the first run of a list is the one that no other run comes before;
* **`RunStore.latest?_of_newest`** — the latest run is the one that no other run comes before.
-/

namespace SuiteRunner

/-! ### Names -/

namespace Numeral

theorem slash_notMem_padded (width n : Nat) : '/' ∉ (padded width n).toList := by
  rw [padded, padLeft, String.toList_append, List.mem_append, not_or]
  refine ⟨?_, fun h => ?_⟩
  · rw [String.toList_ofList]
    exact fun h => absurd (List.eq_of_mem_replicate h) (by decide)
  · have hdigit := Nat.isDigit_of_mem_toDigits (by omega) (by omega)
      (show '/' ∈ Nat.toDigits 10 n by simpa using h)
    exact absurd hdigit (by decide)

end Numeral

/-- The text of a point in time that stands in names of files has no slashes. -/
theorem Instant.slash_notMem_compactText (t : Instant) : '/' ∉ t.compactText.toList := by
  have hyear : ∀ year, '/' ∉ (yearText year).toList := by
    intro year
    rw [yearText]
    split
    · exact Numeral.slash_notMem_padded _ _
    · rw [String.toList_append, List.mem_append, not_or]
      refine ⟨?_, Numeral.slash_notMem_padded _ _⟩
      split <;> decide
  simp [compactText, dateText, clockText, hyear, Numeral.slash_notMem_padded]

namespace Instant

variable {t u v : Instant}

theorem le_iff : t.le u = true ↔
    t.seconds < u.seconds ∨ t.seconds = u.seconds ∧ t.nanos ≤ u.nanos := by
  simp [le]

theorem le_total (t u : Instant) : t.le u = true ∨ u.le t = true := by
  simp only [le_iff]
  omega

theorem le_trans (htu : t.le u = true) (huv : u.le v = true) : t.le v = true := by
  rw [le_iff] at *
  omega

theorem le_antisymm (htu : t.le u = true) (hut : u.le t = true) : t = u := by
  obtain ⟨s, n⟩ := t
  obtain ⟨s', n'⟩ := u
  simp only [le_iff] at htu hut
  rw [mk.injEq]
  omega

end Instant

namespace StoredRun

/-- The name that a run gets is the name of a file. -/
theorem isName_nameAt (t : Instant) (sequence : Nat) :
    Path.IsName (nameAt t sequence ++ ".json") := by
  refine Path.isName_append ?_ (by decide) (by decide)
  simp [nameAt, t.slash_notMem_compactText, Numeral.slash_notMem_padded]

theorem nameAt_ne_empty (t : Instant) (sequence : Nat) : nameAt t sequence ≠ "" := by
  simp [nameAt]

/-! ### The order of runs -/

variable {a b c : StoredRun}

/-- A run comes before another one if it started later, or at the same time with a name that is not
smaller. -/
theorem precedes_iff : a.precedes b = true ↔
    a.startedAt = b.startedAt ∧ b.id.toList ≤ a.id.toList ∨
      a.startedAt ≠ b.startedAt ∧ b.startedAt.le a.startedAt = true := by
  rw [precedes]
  split
  · rename_i h
    simp only [h, ne_eq, not_true_eq_false, false_and, or_false, true_and, Bool.not_eq_true',
      decide_eq_false_iff_not, String.lt_iff_toList_lt, not_lt]
  · rename_i h
    simp [h]

theorem precedes_total (a b : StoredRun) : (a.precedes b || b.precedes a) = true := by
  rw [Bool.or_eq_true, precedes_iff, precedes_iff]
  by_cases h : a.startedAt = b.startedAt
  · simp [h, le_total]
  · have hle := Instant.le_total a.startedAt b.startedAt
    simp only [h, Ne.symm h, false_and, false_or, ne_eq, not_false_eq_true, true_and]
    exact hle.symm

theorem precedes_trans (a b c : StoredRun) (hab : a.precedes b = true)
    (hbc : b.precedes c = true) : a.precedes c = true := by
  rw [precedes_iff] at hab hbc ⊢
  rcases hab with ⟨heq, hid⟩ | ⟨hne, hle⟩
  · rw [heq]
    exact hbc.imp_left fun h => ⟨h.1, h.2.trans hid⟩
  · rcases hbc with ⟨heq', -⟩ | ⟨hne', hle'⟩
    · exact .inr ⟨heq' ▸ hne, heq' ▸ hle⟩
    · refine .inr ⟨fun h => ?_, Instant.le_trans hle' hle⟩
      exact hne' (Instant.le_antisymm (h ▸ hle) hle')

/-- In a sorted list, the run that no other run comes before is the first. -/
theorem head?_mergeSort {runs : List StoredRun} (hmem : a ∈ runs)
    (newest : ∀ x ∈ runs, x ≠ a → x.precedes a = false) :
    (runs.mergeSort precedes).head? = some a := by
  have hsorted : (runs.mergeSort precedes).Pairwise fun b c => b.precedes c = true :=
    List.pairwise_mergeSort precedes_trans precedes_total runs
  have hmem : a ∈ runs.mergeSort precedes := List.mem_mergeSort.2 hmem
  cases hcases : runs.mergeSort precedes with
  | nil =>
    rw [hcases] at hmem
    cases hmem
  | cons first rest =>
    have hfirst : first ∈ runs := List.mem_mergeSort.1 (hcases ▸ List.mem_cons_self)
    rw [hcases] at hmem hsorted
    by_contra hother
    have hne : first ≠ a := fun heq => hother (by rw [List.head?_cons, heq])
    have hlater := (List.mem_cons.1 hmem).resolve_left hne.symm
    have hprecedes := (List.pairwise_cons.1 hsorted).1 a hlater
    rw [newest first hfirst hne] at hprecedes
    cases hprecedes

end StoredRun

/-! ### Lists -/

namespace RunStore

variable {store : RunStore} {files : FileTree} {r : StoredRun} {path name : String}

/-- What is read as a run. -/
theorem read?_eq_some : read? files path = some r ↔ ∃ bytes text n,
    files.readBytes path = .ok bytes ∧ Utf8.decode? bytes = some text ∧
      Json.read? text = some n ∧ StoredRun.ofNode? n = some r := by
  simp only [read?, Option.bind_eq_bind, Option.bind_eq_some_iff, toOption_eq_some,
    FileTree.readText, bind_eq_ok]
  constructor
  · rintro ⟨text, ⟨bytes, hbytes, hdecode⟩, n, hn, hr⟩
    cases htext : Utf8.decode? bytes with
    | none =>
      rw [htext] at hdecode
      cases hdecode
    | some text' =>
      rw [htext] at hdecode
      cases hdecode
      exact ⟨bytes, text, n, hbytes, htext, hn, hr⟩
  · rintro ⟨bytes, text, n, hbytes, htext, hn, hr⟩
    exact ⟨text, ⟨bytes, hbytes, by rw [htext]; rfl⟩, n, hn, hr⟩

/-- The runs in the files of a directory that are called like runs, in order. -/
theorem list_eq {l : Location} (h : files.find store.dir = .ok (l, .directory)) :
    store.list files = .ok (store.runsIn files (files.namesIn l)) := by
  have hexists : files.exists? store.dir = true := by rw [FileTree.exists?, h]
  rw [list, hexists, FileTree.list_eq h]
  rfl

/-- A file with a run is one of those in the directory of the store. -/
theorem exists_find_dir (nonempty : store.dir ≠ "") (named : Path.IsName name)
    (h : read? files (Path.join store.dir name) = some r) :
    ∃ l, files.find store.dir = .ok (l, .directory) ∧ name ∈ files.namesIn l := by
  obtain ⟨bytes, -, -, hbytes, -⟩ := read?_eq_some.1 h
  obtain ⟨k, hk⟩ := FileTree.readBytes_eq_ok.1 hbytes
  obtain ⟨l, hl, hfollow⟩ := FileTree.find_join nonempty named.relative (FileTree.find_eq_ok.2 hk)
  rw [named.pieces_eq, List.map_singleton, String.ofList_toList] at hfollow
  have hlast := FileTree.follow_eq_append (by simpa using Ne.symm named.2.2.2) hfollow
  simp only [List.filter_singleton, ne_eq, named.1, named.2.2.1, not_false_eq_true, decide_true,
    Bool.and_self, cond_true] at hlast
  refine ⟨l, hl, FileTree.mem_namesIn.2 ?_⟩
  rw [← hlast, hk.2]
  simp

theorem extension?_path {id : String} (some_id : id ≠ "") (named : Path.IsName (id ++ ".json")) :
    Path.extension? (store.path id) = some "json" := by
  rw [path, Path.extension?, Path.name?_join _ named, Option.bind_some, String.toList_append]
  rw [show ".json".toList = '.' :: "json".toList from rfl,
    Path.splitName_append (fun h => some_id (String.toList_eq_nil_iff.1 h)) (by decide)]
  simp

/-- **The latest run is the one that no other run comes before.** -/
theorem latest?_of_newest (nonempty : store.dir ≠ "") (some_id : r.id ≠ "")
    (named : Path.IsName (r.id ++ ".json")) (h : read? files (store.path r.id) = some r)
    (newest : ∀ name other, read? files (Path.join store.dir name) = some other → other ≠ r →
      other.precedes r = false) : store.latest? files = .ok (some r) := by
  obtain ⟨l, hl, hname⟩ := exists_find_dir nonempty named h
  rw [latest?, list_eq hl, runsIn]
  refine congrArg Except.ok (StoredRun.head?_mergeSort ?_ fun x hx hne => ?_)
  · refine List.mem_filterMap.2 ⟨store.path r.id, List.mem_filter.2 ⟨?_, ?_⟩, h⟩
    · exact List.mem_map_of_mem hname
    · rw [extension?_path some_id named, decide_eq_true_eq]
  · obtain ⟨p, hp, hx⟩ := List.mem_filterMap.1 hx
    obtain ⟨name, -, rfl⟩ := List.mem_map.1 (List.mem_filter.1 hp).1
    exact newest name x hx hne

end RunStore

end SuiteRunner
