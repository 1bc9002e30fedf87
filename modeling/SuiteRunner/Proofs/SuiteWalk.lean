import Mathlib.Data.List.Lex
import Mathlib.Data.List.Nodup
import Mathlib.Data.List.Perm.Subperm
import Mathlib.Data.String.Basic
import SuiteRunner.Proofs.FileChanges
import SuiteRunner.Suite.Discovery

/-!
# The walk below a search path

The walk visits the names in a directory in their order and goes into every directory that is not
hidden.  What it comes by is told by the names on the way from the search path.

* `FileTree.IsTree`, trees of files and directories;
* `FileTree.mem_namesIn` and `FileTree.pairwise_namesIn`, the names in a directory;
* `FileTree.find_joinAll`, what stands at a path that is made of a directory and names;
* `namesBelow`, the names on the way to suite files;
* **`suitePathsBelow_eq`** — below a directory the walk does not fail, and finds what these names lead
  to — and `suitePaths_eq_ok`, when the search at all search paths does not fail;
* **`pairwise_namesBelow`** — names come in lexicographic order;
* **`leads_of_mem_namesBelow`** and **`mem_namesBelow_of_leads`** — the walk goes everywhere but
  into hidden directories.
-/

namespace SuiteRunner

/-! ### Names that follow one another -/

/-- The path below a directory that is made of names. -/
def Path.joinAll (dir : String) (names : List String) : String := names.foldl Path.join dir

theorem Path.joinAll_append (dir : String) (names more : List String) :
    joinAll dir (names ++ more) = joinAll (joinAll dir names) more := List.foldl_append

/-- What is sorted by names is in the order of the names. -/
theorem pairwise_mergeSort_name {α : Type} (key : α → String) (xs : List α) :
    (xs.mergeSort fun a b => !(key b < key a)).Pairwise fun a b => ¬ key b < key a := by
  have trans : ∀ a b c : α, (!decide (key b < key a)) = true → (!decide (key c < key b)) = true →
      (!decide (key c < key a)) = true := by
    intro a b c hab hbc
    simp only [Bool.not_eq_true', decide_eq_false_iff_not, String.lt_iff_toList_lt,
      not_lt] at hab hbc ⊢
    exact hab.trans hbc
  have total : ∀ a b : α, (!decide (key b < key a) || !decide (key a < key b)) = true := by
    intro a b
    simp only [Bool.or_eq_true, Bool.not_eq_true', decide_eq_false_iff_not,
      String.lt_iff_toList_lt, not_lt]
    exact le_total _ _
  refine (List.pairwise_mergeSort trans total xs).imp fun {a b} h => ?_
  simpa only [Bool.not_eq_true', decide_eq_false_iff_not] using h

/-- Names that are in order and different ascend. -/
theorem name_lt_of_ne {a b : String} (h : ¬ b < a) (hne : a ≠ b) : a < b := by
  rw [String.lt_iff_toList_lt] at h ⊢
  exact lt_of_le_of_ne (not_lt.1 h) fun heq => hne (String.toList_inj.1 heq)

/-! ### Trees -/

namespace FileTree

variable {t : FileTree} {k l : Location} {e : Entry} {dir name : String} {names more : List String}

/-- What may be the name of an entry. -/
def IsEntryName (name : String) : Prop :=
  Path.IsName name ∧ '\x00' ∉ name.toList ∧ name.utf8ByteSize ≤ nameLimit

instance (name : String) : Decidable (IsEntryName name) :=
  inferInstanceAs (Decidable (_ ∧ _ ∧ _))

/-- Every entry is in a directory and has a name there that no other entry has. -/
structure IsTree (t : FileTree) : Prop where
  distinct : (t.entries.map Prod.fst).Nodup
  inside : ∀ entry ∈ t.entries, entry.1 ≠ [] ∧ t.entry? entry.1.dropLast = some .directory
  named : ∀ entry ∈ t.entries, ∀ name ∈ entry.1.getLast?, IsEntryName name

theorem entry?_concat_ne_none :
    t.entry? (l ++ [name]) ≠ none ↔ l ++ [name] ∈ t.entries.map Prod.fst :=
  (mem_keys_iff (List.append_ne_nil_of_right_ne_nil l (List.cons_ne_nil name []))).symm

/-- The names in a directory are those of the entries there. -/
theorem mem_namesIn : name ∈ t.namesIn l ↔ t.entry? (l ++ [name]) ≠ none := by
  rw [entry?_concat_ne_none, namesIn, List.mem_mergeSort, List.mem_filterMap, List.mem_map]
  constructor
  · rintro ⟨⟨k, e⟩, hmem, h⟩
    simp only [Option.ite_none_right_eq_some] at h
    exact ⟨(k, e), hmem, by rw [← h.1, List.dropLast_append_getLast? name h.2]⟩
  · rintro ⟨⟨k, e⟩, hmem, hk⟩
    refine ⟨(k, e), hmem, ?_⟩
    obtain rfl : k = l ++ [name] := hk
    simp

namespace IsTree

/-- Every entry is at the end of a directory and a name. -/
theorem of_entry (tree : t.IsTree) (h : t.entry? (l ++ [name]) ≠ none) :
    t.entry? l = some .directory ∧ IsEntryName name := by
  obtain ⟨entry, hmem, hentry⟩ := List.mem_map.1 (entry?_concat_ne_none.1 h)
  have hinside := (tree.inside entry hmem).2
  have hnamed := tree.named entry hmem name
  rw [hentry, List.dropLast_concat] at hinside
  rw [hentry, List.getLast?_concat] at hnamed
  exact ⟨hinside, hnamed rfl⟩

/-- What is on the way to an entry is a directory. -/
theorem directory_of_append (tree : t.IsTree) (some_name : names ≠ [])
    (h : t.entry? (l ++ names) ≠ none) : t.entry? l = some .directory :=
  FileTree.directory_of_append (fun _ _ hsome => (tree.of_entry hsome).1) some_name h

/-- The names on the way to an entry. -/
theorem isEntryName (tree : t.IsTree) (h : t.entry? (l ++ names) ≠ none) :
    ∀ name ∈ names, IsEntryName name := by
  intro name hmem
  obtain ⟨before, after, rfl⟩ := List.append_of_mem hmem
  have hsplit : l ++ (before ++ name :: after) = (l ++ before ++ [name]) ++ after := by simp
  rw [hsplit] at h
  by_cases hafter : after = []
  · rw [hafter, List.append_nil] at h
    exact (tree.of_entry h).2
  · have hdirectory := tree.directory_of_append hafter h
    exact (tree.of_entry (by rw [hdirectory]; simp)).2

/-- **The names in a directory ascend.** -/
theorem pairwise_namesIn (tree : t.IsTree) (l : Location) : (t.namesIn l).Pairwise (· < ·) := by
  have hsorted := pairwise_mergeSort_name id
    (t.entries.filterMap fun entry => if entry.1.dropLast = l then entry.1.getLast? else none)
  have hnodup : (t.entries.filterMap fun entry =>
      if entry.1.dropLast = l then entry.1.getLast? else none).Nodup := by
    have hkeys := List.filterMap_map (f := Prod.fst) (l := t.entries)
      (g := fun k : Location => if k.dropLast = l then k.getLast? else none)
    refine hkeys ▸ tree.distinct.filterMap fun k k' name hk hk' => ?_
    simp only [Option.mem_def, Option.ite_none_right_eq_some] at hk hk'
    rw [← List.dropLast_append_getLast? name hk.2, ← List.dropLast_append_getLast? name hk'.2,
      hk.1, hk'.1]
  have hnames := hsorted.and ((List.mergeSort_perm _ _).nodup_iff.2 hnodup)
  exact hnames.imp fun h => name_lt_of_ne h.1 h.2

/-- No location is longer than there are entries. -/
theorem length_le (tree : t.IsTree) (h : t.entry? l ≠ none) : l.length ≤ t.entries.length := by
  have hnodup : ((List.range l.length).map fun n => l.take (n + 1)).Nodup := by
    refine List.Nodup.map_on (fun m hm n hn heq => ?_) List.nodup_range
    rw [List.mem_range] at hm hn
    have hlength := congrArg List.length heq
    rw [List.length_take, List.length_take] at hlength
    omega
  have hsubset : ((List.range l.length).map fun n => l.take (n + 1)) ⊆
      t.entries.map Prod.fst := by
    intro k hk
    obtain ⟨n, hn, rfl⟩ := List.mem_map.1 hk
    rw [List.mem_range] at hn
    have htake : l.take (n + 1) = l.take n ++ [l[n]] := List.take_succ_eq_append_getElem hn
    rw [htake, ← entry?_concat_ne_none, ← htake]
    by_cases hall : n + 1 = l.length
    · rwa [hall, List.take_length]
    · have hdrop : l.drop (n + 1) ≠ [] := by
        rw [ne_eq, List.drop_eq_nil_iff]
        omega
      rw [tree.directory_of_append hdrop (by rwa [List.take_append_drop])]
      simp
  simpa using (List.subperm_of_subset hnodup hsubset).length_le

end IsTree

/-! ### Paths made of names -/

/-- The names before the last slash of a directory lead to where the directory is. -/
theorem follow_lead_of_pieces {o : Location} (nonempty : dir ≠ "")
    (h : t.follow o ((Path.pieces dir).map String.ofList) = .ok l) :
    t.follow o ((Path.lead dir).map String.ofList) = .ok l := by
  have hne : dir.toList ≠ [] := fun h => nonempty (String.toList_eq_nil_iff.1 h)
  rw [Path.lead, if_neg hne]
  split
  · rename_i hlast
    -- The piece after the last slash is empty, and names nothing.
    obtain ⟨s, hs⟩ := List.getLast?_eq_some_iff.1 hlast
    have hpieces : Path.pieces dir = s.splitOn '/' ++ [[]] := by
      rw [Path.pieces_eq, hs, List.splitOn_append_cons_self, List.splitOn_nil]
    rw [hpieces, List.dropLast_concat]
    rw [hpieces, List.map_append, follow_append] at h
    cases hfront : t.follow o ((s.splitOn '/').map String.ofList) with
    | error fault =>
      rw [hfront] at h
      cases h
    | ok m =>
      rw [hfront] at h
      have hlast : t.follow m [""] = .ok l := h
      rw [follow_eq_append (by simp) hlast]
      simp
  · exact h

/-- **What stands at a name that is joined to a directory.** -/
theorem find_join_eq_ok (hdir : t.find dir = .ok (l, .directory)) (hname : IsEntryName name) :
    t.find (Path.join dir name) = .ok (k, e) ↔
      (Path.join dir name).utf8ByteSize < pathLimit ∧ k = l ++ [name] ∧ t.entry? k = some e := by
  obtain ⟨hlocate, hdirectory⟩ := find_eq_ok.1 hdir
  obtain ⟨⟨nonempty, hnul, -⟩, hfollow⟩ := locate_eq_ok.1 hlocate
  obtain ⟨hplain, hclean, hshort⟩ := hname
  have hone : t.follow l [name] = .ok (l ++ [name]) := by
    simp [follow, hdirectory, hplain.1, hplain.2.2.1, hplain.2.2.2, Nat.not_lt.2 hshort]
  constructor
  · intro h
    obtain ⟨base, hbase, hrest⟩ := find_join nonempty hplain.relative h
    obtain ⟨hjoined, hentry⟩ := find_eq_ok.1 h
    rw [hdir] at hbase
    cases hbase
    rw [hplain.pieces_eq, List.map_singleton, String.ofList_toList, hone] at hrest
    cases hrest
    exact ⟨(locate_eq_ok.1 hjoined).1.2.2, rfl, hentry⟩
  · rintro ⟨hsize, rfl, hentry⟩
    have hjoin := Path.toList_join dir hplain.relative
    have hfront : '\x00' ∉ Path.front dir := by
      rw [Path.front]
      split
      · exact hnul
      · simpa using hnul
    refine find_eq_ok.2 ⟨locate_eq_ok.2 ⟨⟨?_, ?_, hsize⟩, ?_⟩, hentry⟩
    · intro h
      rw [h] at hjoin
      exact hplain.1 (String.toList_eq_nil_iff.1 (List.append_eq_nil_iff.1 hjoin.symm).2)
    · rw [hjoin, List.mem_append, not_or]
      exact ⟨hfront, hclean⟩
    · rw [origin_join nonempty hplain.relative, Path.pieces_join dir hplain.relative,
        hplain.pieces_eq, List.map_append, follow_append, follow_lead_of_pieces nonempty hfollow]
      simpa [Except.bind] using hone

end FileTree

namespace Path

theorem utf8ByteSize_le_joinAll {dir : String} {names : List String}
    (hnames : ∀ name ∈ names, IsName name) :
    dir.utf8ByteSize ≤ (joinAll dir names).utf8ByteSize := by
  induction names generalizing dir with
  | nil => exact Nat.le_refl _
  | cons name names ih =>
    have hfirst : dir.utf8ByteSize ≤ (join dir name).utf8ByteSize :=
      utf8ByteSize_le_join dir (hnames name List.mem_cons_self).relative
    exact hfirst.trans (ih fun n hn => hnames n (List.mem_cons_of_mem _ hn))

end Path

namespace FileTree

variable {t : FileTree} {k l : Location} {e : Entry} {dir name : String} {names more : List String}

/-- **What stands at the end of names that follow a directory.**  A path that is too long is not
followed. -/
theorem find_joinAll (tree : t.IsTree) (hdir : t.find dir = .ok (l, .directory))
    (hentry : t.entry? (l ++ names) = some e)
    (short : (Path.joinAll dir names).utf8ByteSize < pathLimit) :
    t.find (Path.joinAll dir names) = .ok (l ++ names, e) := by
  induction names generalizing dir l with
  | nil =>
    rw [List.append_nil, (find_eq_ok.1 hdir).2] at hentry
    cases hentry
    rw [List.append_nil]
    exact hdir
  | cons name names ih =>
    have hsplit : l ++ name :: names = (l ++ [name]) ++ names := by simp
    have hsome : t.entry? (l ++ name :: names) ≠ none := by rw [hentry]; simp
    have hnames := tree.isEntryName hsome
    have hfirst := hnames name List.mem_cons_self
    by_cases hlast : names = []
    · subst hlast
      exact (find_join_eq_ok hdir hfirst).2 ⟨short, rfl, hentry⟩
    · have hdirectory : t.entry? (l ++ [name]) = some .directory :=
        tree.directory_of_append hlast (hsplit ▸ hsome)
      have hle : (Path.join dir name).utf8ByteSize ≤
          (Path.joinAll dir (name :: names)).utf8ByteSize :=
        Path.utf8ByteSize_le_joinAll fun n hn => (hnames n (List.mem_cons_of_mem _ hn)).1
      have hjoin : t.find (Path.join dir name) = .ok (l ++ [name], .directory) :=
        (find_join_eq_ok hdir hfirst).2 ⟨by omega, rfl, hdirectory⟩
      rw [hsplit] at hentry ⊢
      exact ih hjoin hentry short

theorem list_eq (hdir : t.find dir = .ok (l, .directory)) : t.list dir = .ok (t.namesIn l) := by
  rw [list, hdir]
  rfl

end FileTree

/-! ### The walk -/

section Walk

variable {t : FileTree} {l : Location} {e : Entry} {dir name : String} {names : List String}
  {fuel : Nat}

/-- Holds for the name of a hidden entry. -/
def IsHidden (name : String) : Prop := name.toList.head? = some '.'

instance (name : String) : Decidable (IsHidden name) := inferInstanceAs (Decidable (_ = _))

/-- The ways of a walk that go on with a name in the directory; `below` walks from a path. -/
def namesThrough (t : FileTree) (dir : String) (below : String → List (List String))
    (name : String) : List (List String) :=
  if t.isDirectory (Path.join dir name) then
    if IsHidden name then [] else (below (Path.join dir name)).map (name :: ·)
  else if isSuitePath (Path.join dir name) then [[name]]
  else []

/-- The names on the ways from a directory to the suite files below it. -/
def namesBelow (t : FileTree) : Nat → String → List (List String)
  | 0, _ => []
  | fuel + 1, dir =>
    match t.list dir with
    | .error _ => []
    | .ok names => names.flatMap (namesThrough t dir (namesBelow t fuel))

/-- **The walk below a directory** finds the paths that are made of the names: whatever it goes into is
a directory, so that it can be listed. -/
theorem suitePathsBelow_eq (hdir : t.find dir = .ok (l, .directory)) (fuel : Nat) :
    suitePathsBelow t fuel dir = .ok ((namesBelow t fuel dir).map (Path.joinAll dir)) := by
  induction fuel generalizing dir l with
  | zero => rfl
  | succ fuel ih =>
    have hthrough : ∀ name, (if t.isDirectory (Path.join dir name) then
          if name.toList.head? = some '.' then .ok [] else suitePathsBelow t fuel (Path.join dir name)
        else .ok (if isSuitePath (Path.join dir name) then [Path.join dir name] else [])) =
        (pure ((namesThrough t dir (namesBelow t fuel) name).map (Path.joinAll dir)) :
          Except FileFault (List String)) := by
      intro name
      rw [namesThrough]
      by_cases hdirectory : t.isDirectory (Path.join dir name) = true
      · rw [if_pos hdirectory, if_pos hdirectory]
        by_cases hhidden : name.toList.head? = some '.'
        · rw [if_pos hhidden, if_pos (show IsHidden name from hhidden)]
          rfl
        · obtain ⟨k, hk⟩ := FileTree.isDirectory_iff.1 hdirectory
          rw [if_neg hhidden, if_neg (show ¬ IsHidden name from hhidden), ih hk, List.map_map]
          rfl
      · rw [if_neg hdirectory, if_neg hdirectory]
        split <;> rfl
    rw [suitePathsBelow, namesBelow, FileTree.list_eq hdir]
    simp only [bind, Except.bind, hthrough, List.mapM_pure]
    rw [List.map_flatMap, List.flatMap_def]
    rfl

/-- The paths of suite files at a search path where something stands. -/
def pathsAt (t : FileTree) (root : String) : List String :=
  if t.isFile root then [root]
  else (namesBelow t (t.entries.length + 1) root).map (Path.joinAll root)

theorem pathsAt_of_isFile {root : String} (h : t.isFile root = true) : pathsAt t root = [root] :=
  if_pos h

theorem pathsAt_of_find {root : String} (hroot : t.find root = .ok (l, .directory)) :
    pathsAt t root = (namesBelow t (t.entries.length + 1) root).map (Path.joinAll root) :=
  if_neg (by rw [FileTree.isFile, hroot]; simp)

theorem FileTree.find_of_exists? {path : String} (h : t.exists? path = true) :
    ∃ l e, t.find path = .ok (l, e) := by
  rw [exists?] at h
  split at h
  · exact ⟨_, _, ‹_›⟩
  · cases h

theorem suitePathsAt_eq_ok {root : String} {paths : List String} :
    suitePathsAt t root = .ok paths ↔ t.exists? root = true ∧ paths = pathsAt t root := by
  rw [suitePathsAt]
  cases hexists : t.exists? root with
  | false => simp
  | true =>
    obtain ⟨l, _ | content, hfind⟩ := FileTree.find_of_exists? hexists
    · have hfile : t.isFile root = false := by rw [FileTree.isFile, hfind]
      rw [pathsAt_of_find hfind, suitePathsBelow_eq hfind, hfile]
      simp [Except.mapError, eq_comm]
    · have hfile : t.isFile root = true := by rw [FileTree.isFile, hfind]
      rw [pathsAt_of_isFile hfile, hfile]
      simp [eq_comm]

/-- **The search at all search paths** does not fail exactly if something stands at each of them. -/
theorem suitePaths_eq_ok {roots paths : List String} : suitePaths t roots = .ok paths ↔
    (∀ root ∈ roots, t.exists? root = true) ∧ paths = roots.flatMap (pathsAt t) := by
  have hall : ∀ found, roots.mapM (suitePathsAt t) = .ok found ↔
      (∀ root ∈ roots, t.exists? root = true) ∧ found = roots.map (pathsAt t) := by
    induction roots with
    | nil =>
      exact fun found => ⟨fun h => ⟨by simp, (Except.ok.inj h).symm⟩, fun h => by rw [h.2]; rfl⟩
    | cons root roots ih =>
      intro found
      simp only [List.mapM_cons, bind_eq_ok, suitePathsAt_eq_ok, ih, List.forall_mem_cons,
        List.map_cons]
      constructor
      · rintro ⟨_, ⟨hroot, rfl⟩, _, ⟨hroots, rfl⟩, hfound⟩
        exact ⟨⟨hroot, hroots⟩, (Except.ok.inj hfound).symm⟩
      · rintro ⟨⟨hroot, hroots⟩, rfl⟩
        exact ⟨_, ⟨hroot, rfl⟩, _, ⟨hroots, rfl⟩, rfl⟩
  rw [suitePaths, map_eq_ok, List.flatMap_def]
  constructor
  · rintro ⟨found, hfound, rfl⟩
    obtain ⟨hroots, rfl⟩ := (hall found).1 hfound
    exact ⟨hroots, rfl⟩
  · rintro ⟨hroots, rfl⟩
    exact ⟨_, (hall _).2 ⟨hroots, rfl⟩, rfl⟩

/-- A way goes on below a directory that is not hidden, or ends at a suite file. -/
theorem mem_namesThrough {below : String → List (List String)} :
    names ∈ namesThrough t dir below name ↔
      (t.isDirectory (Path.join dir name) = true ∧ ¬ IsHidden name ∧
        ∃ rest ∈ below (Path.join dir name), names = name :: rest) ∨
      (t.isDirectory (Path.join dir name) = false ∧ isSuitePath (Path.join dir name) = true ∧
        names = [name]) := by
  rw [namesThrough]
  by_cases hdirectory : t.isDirectory (Path.join dir name) = true
  · rw [if_pos hdirectory]
    by_cases hhidden : IsHidden name
    · simp [hdirectory, hhidden]
    · rw [if_neg hhidden, List.mem_map]
      simp only [hdirectory, hhidden, not_false_eq_true, true_and, Bool.true_eq_false, false_and,
        or_false]
      exact exists_congr fun rest => and_congr_right fun _ => eq_comm
  · rw [if_neg hdirectory]
    rw [Bool.not_eq_true] at hdirectory
    by_cases hsuite : isSuitePath (Path.join dir name) = true <;> simp [hdirectory, hsuite]

/-- A way through a name begins with it. -/
theorem eq_cons_of_mem_namesThrough {below : String → List (List String)}
    (h : names ∈ namesThrough t dir below name) : ∃ rest, names = name :: rest := by
  rcases mem_namesThrough.1 h with ⟨-, -, rest, -, rfl⟩ | ⟨-, -, rfl⟩
  · exact ⟨rest, rfl⟩
  · exact ⟨[], rfl⟩

/-- The ways of a walk go through the names in its directory. -/
theorem mem_namesBelow_succ (hdir : t.find dir = .ok (l, .directory)) :
    names ∈ namesBelow t (fuel + 1) dir ↔
      ∃ name ∈ t.namesIn l, names ∈ namesThrough t dir (namesBelow t fuel) name := by
  rw [namesBelow, FileTree.list_eq hdir]
  exact List.mem_flatMap

/-- **The ways of a walk come in lexicographic order.** -/
theorem pairwise_namesBelow (tree : t.IsTree) (hdir : t.find dir = .ok (l, .directory)) :
    (namesBelow t fuel dir).Pairwise (· < ·) := by
  induction fuel generalizing dir l with
  | zero => exact List.Pairwise.nil
  | succ fuel ih =>
    rw [namesBelow, FileTree.list_eq hdir]
    simp only [List.pairwise_flatMap]
    constructor
    · intro name _
      rw [namesThrough]
      split
      · rename_i hdirectory
        obtain ⟨k, hk⟩ := FileTree.isDirectory_iff.1 hdirectory
        split
        · exact List.Pairwise.nil
        · rw [List.pairwise_map]
          exact (ih hk).imp fun h => List.cons_lt_cons_iff.2 (.inr ⟨rfl, h⟩)
      · split
        · exact List.pairwise_singleton _ _
        · exact List.Pairwise.nil
    · -- Ways through different names differ in their first name.
      refine (tree.pairwise_namesIn l).imp fun {a b} hab x hx y hy => ?_
      obtain ⟨_, rfl⟩ := eq_cons_of_mem_namesThrough hx
      obtain ⟨_, rfl⟩ := eq_cons_of_mem_namesThrough hy
      exact List.cons_lt_cons_iff.2 (.inl hab)

/-- The names lead from a location to an entry, and into no hidden directory. -/
structure Leads (t : FileTree) (l : Location) (names : List String) (e : Entry) : Prop where
  some_name : names ≠ []
  entry : t.entry? (l ++ names) = some e
  visible : ∀ name ∈ names.dropLast, ¬ IsHidden name

/-- Where names lead, and the name before them. -/
theorem leads_cons (tree : t.IsTree) (some_name : names ≠ []) :
    Leads t l (name :: names) e ↔ ¬ IsHidden name ∧
      t.entry? (l ++ [name]) = some .directory ∧ Leads t (l ++ [name]) names e := by
  have hsplit : l ++ name :: names = (l ++ [name]) ++ names := by simp
  constructor
  · rintro ⟨-, hentry, hvisible⟩
    rw [List.dropLast_cons_of_ne_nil some_name] at hvisible
    rw [hsplit] at hentry
    exact ⟨hvisible name List.mem_cons_self,
      tree.directory_of_append some_name (by rw [hentry]; simp), some_name, hentry,
      fun n hn => hvisible n (List.mem_cons_of_mem _ hn)⟩
  · rintro ⟨hhidden, -, -, hentry, hvisible⟩
    refine ⟨by simp, by rw [hsplit]; exact hentry, ?_⟩
    rw [List.dropLast_cons_of_ne_nil some_name]
    rintro n hn
    rcases List.mem_cons.1 hn with rfl | hn
    · exact hhidden
    · exact hvisible n hn

/-- **The ways of a walk lead to what is not seen to be a directory.** -/
theorem leads_of_mem_namesBelow (tree : t.IsTree) (hdir : t.find dir = .ok (l, .directory))
    (h : names ∈ namesBelow t fuel dir) :
    ∃ e, Leads t l names e ∧ t.isDirectory (Path.joinAll dir names) = false ∧
      isSuitePath (Path.joinAll dir names) = true := by
  induction fuel generalizing dir l names with
  | zero => simp [namesBelow] at h
  | succ fuel ih =>
    obtain ⟨name, hname, hthrough⟩ := (mem_namesBelow_succ hdir).1 h
    obtain ⟨e, he⟩ := Option.ne_none_iff_exists'.1 (FileTree.mem_namesIn.1 hname)
    rcases mem_namesThrough.1 hthrough with ⟨hdirectory, hhidden, rest, hrest, rfl⟩ | hends
    · obtain ⟨k, hk⟩ := FileTree.isDirectory_iff.1 hdirectory
      have hname := (tree.of_entry (by rw [he]; simp)).2
      obtain ⟨-, rfl, hentry⟩ := (FileTree.find_join_eq_ok hdir hname).1 hk
      obtain ⟨e', hleads, hseen⟩ := ih hk hrest
      exact ⟨e', (leads_cons tree hleads.some_name).2 ⟨hhidden, hentry, hleads⟩, hseen⟩
    · obtain ⟨hseen, hsuite, rfl⟩ := hends
      exact ⟨e, ⟨by simp, he, by simp⟩, hseen, hsuite⟩

/-- **The walk goes wherever names lead to a suite file**, as far as paths may be long. -/
theorem mem_namesBelow_of_leads (tree : t.IsTree) (hdir : t.find dir = .ok (l, .directory))
    {content : Bytes} (h : Leads t l names (.file content))
    (short : (Path.joinAll dir names).utf8ByteSize < FileTree.pathLimit)
    (suite : isSuitePath (Path.joinAll dir names) = true) (enough : names.length ≤ fuel) :
    names ∈ namesBelow t fuel dir := by
  induction fuel generalizing dir l names with
  | zero => exact absurd (List.length_eq_zero_iff.1 (Nat.le_zero.1 enough)) h.some_name
  | succ fuel ih =>
    cases names with
    | nil => exact absurd rfl h.some_name
    | cons name names =>
      have hnames := tree.isEntryName (by rw [h.entry]; simp)
      have hfirst := hnames name List.mem_cons_self
      rw [mem_namesBelow_succ hdir]
      refine ⟨name, FileTree.mem_namesIn.2 ?_, mem_namesThrough.2 ?_⟩
      · by_cases hlast : names = []
        · subst hlast
          rw [h.entry]
          simp
        · rw [((leads_cons tree hlast).1 h).2.1]
          simp
      · by_cases hlast : names = []
        · subst hlast
          refine .inr ⟨?_, suite, rfl⟩
          have hfind := FileTree.find_joinAll tree hdir h.entry short
          show t.isDirectory (Path.joinAll dir [name]) = false
          rw [FileTree.isDirectory, hfind]
        · obtain ⟨hhidden, hdirectory, hleads⟩ := (leads_cons tree hlast).1 h
          have hle : (Path.join dir name).utf8ByteSize ≤
              (Path.joinAll dir (name :: names)).utf8ByteSize :=
            Path.utf8ByteSize_le_joinAll fun n hn => (hnames n (List.mem_cons_of_mem _ hn)).1
          have hjoin : t.find (Path.join dir name) = .ok (l ++ [name], .directory) :=
            (FileTree.find_join_eq_ok hdir hfirst).2 ⟨by omega, rfl, hdirectory⟩
          have hrest := ih hjoin hleads short suite (by simpa using enough)
          exact .inl ⟨FileTree.isDirectory_iff.2 ⟨_, hjoin⟩, hhidden, names, hrest, rfl⟩

end Walk

end SuiteRunner
