import SuiteRunner.Proofs.Paths

/-!
# What writing and removing a file changes

A file is written or removed at the location of its path.  All other locations stay as they were, and
no directory comes or goes, so that every path leads where it led before.

* `FileTree.SameBut`, two trees that differ at one location at most, which is no directory;
* **`FileTree.sameBut_of_write`**, **`FileTree.sameBut_of_remove`** — writing and removing a file;
* `FileTree.readBytes_write_self` — what was written is read;
* **`FileTree.readBytes_write_of_ne`** — two names in a directory do not get into each other's way.
-/

namespace SuiteRunner

/-! ### Steps that may fail -/

section Steps

variable {ε ε' α β : Type}

theorem bind_eq_ok {x : Except ε α} {f : α → Except ε β} {b : β} :
    (x >>= f) = .ok b ↔ ∃ a, x = .ok a ∧ f a = .ok b := by
  cases x with
  | error e => simp [bind, Except.bind]
  | ok a => simp [bind, Except.bind]

theorem mapError_eq_ok {x : Except ε α} {g : ε → ε'} {a : α} :
    x.mapError g = .ok a ↔ x = .ok a := by
  cases x with
  | error e => simp [Except.mapError]
  | ok b => simp [Except.mapError]

theorem toOption_eq_some {x : Except ε α} {a : α} : x.toOption = some a ↔ x = .ok a := by
  cases x with
  | error e => simp [Except.toOption]
  | ok b => simp [Except.toOption]

theorem map_eq_ok {x : Except ε α} {g : α → β} {b : β} :
    x.map g = .ok b ↔ ∃ a, x = .ok a ∧ g a = b := by
  cases x with
  | error e => simp [Except.map]
  | ok a => simp [Except.map]

end Steps

namespace FileTree

variable {t t' : FileTree} {k l : Location} {e : Entry} {path : String} {content : Bytes}

/-! ### Entries -/

theorem lookup_setEntry (k l : Location) (e : Entry) (es : List (Location × Entry)) :
    (setEntry l e es).lookup k = if k = l then some e else es.lookup k := by
  induction es with
  | nil =>
    by_cases h : k = l
    · simp [setEntry, h]
    · simp [setEntry, List.lookup_cons, beq_eq_false_iff_ne.2 h, h]
  | cons x es ih =>
    obtain ⟨m, old⟩ := x
    rw [setEntry]
    by_cases hm : m = l
    · rw [if_pos hm, hm, List.lookup_cons, List.lookup_cons]
      by_cases h : k = l
      · simp [h]
      · simp [beq_eq_false_iff_ne.2 h, h]
    · rw [if_neg hm, List.lookup_cons, List.lookup_cons, ih]
      by_cases h : k = m
      · have hne : k ≠ l := fun hkl => hm (h ▸ hkl)
        simp [h, hm]
      · simp [beq_eq_false_iff_ne.2 h]

theorem lookup_filter_ne (k l : Location) (es : List (Location × Entry)) :
    (es.filter (·.1 != l)).lookup k = if k = l then none else es.lookup k := by
  induction es with
  | nil => simp
  | cons x es ih =>
    obtain ⟨m, old⟩ := x
    by_cases hm : m = l
    · rw [List.filter_cons_of_neg (by simp [hm]), ih, List.lookup_cons]
      by_cases h : k = l
      · simp [h]
      · have hne : k ≠ m := fun hkm => h (hkm.trans hm)
        simp [h, beq_eq_false_iff_ne.2 hne]
    · rw [List.filter_cons_of_pos (by simp [hm]), List.lookup_cons, List.lookup_cons, ih]
      by_cases h : k = m
      · simp [h, hm]
      · simp [beq_eq_false_iff_ne.2 h]

theorem entry?_put (hl : l ≠ []) (k : Location) :
    entry? (t.put l e) k = if k = l then some e else t.entry? k := by
  cases k with
  | nil =>
    rw [if_neg (Ne.symm hl)]
    rfl
  | cons name k => exact lookup_setEntry (name :: k) l e t.entries

theorem entry?_drop (hl : l ≠ []) (k : Location) :
    entry? (t.drop l) k = if k = l then none else t.entry? k := by
  cases k with
  | nil =>
    rw [if_neg (Ne.symm hl)]
    rfl
  | cons name k => exact lookup_filter_ne (name :: k) l t.entries

theorem entry?_eq_lookup (hk : k ≠ []) : t.entry? k = t.entries.lookup k := by
  rw [ entry?, if_neg (by simpa using hk)]

theorem mem_keys_iff (hk : k ≠ []) : k ∈ t.entries.map Prod.fst ↔ t.entry? k ≠ none := by
  rw [entry?_eq_lookup hk, Option.ne_none_iff_isSome, List.lookup_isSome_iff, List.mem_map]
  exact exists_congr fun entry => and_congr_right fun _ => eq_comm.trans beq_iff_eq.symm

/-- Where every entry is in a directory, so is all that is on the way to it. -/
theorem directory_of_append {names : List String}
    (inside : ∀ l name, t.entry? (l ++ [name]) ≠ none → t.entry? l = some .directory)
    (some_name : names ≠ []) (h : t.entry? (l ++ names) ≠ none) :
    t.entry? l = some .directory := by
  induction names using List.reverseRecOn with
  | nil => exact absurd rfl some_name
  | append_singleton names name ih =>
    rw [← List.append_assoc] at h
    have hparent := inside _ _ h
    by_cases hnames : names = []
    · rwa [hnames, List.append_nil] at hparent
    · exact ih hnames (by rw [hparent]; simp)

/-- The root is a directory. -/
theorem ne_root (h : t.entry? l ≠ some .directory) : l ≠ [] := by
  rintro rfl
  exact h rfl

/-! ### Reading -/

theorem readBytes_eq_ok :
    t.readBytes path = .ok content ↔
      ∃ l, t.locate path = .ok l ∧ t.entry? l = some (.file content) := by
  simp only [← find_eq_ok]
  rw [readBytes, bind_eq_ok]
  constructor
  · rintro ⟨⟨l, e⟩, hfind, h⟩
    cases e with
    | directory => cases h
    | file b =>
      cases h
      exact ⟨l, hfind⟩
  · rintro ⟨l, hfind⟩
    exact ⟨_, hfind, rfl⟩

theorem isFile_iff :
    t.isFile path = true ↔ ∃ content, t.readBytes path = .ok content := by
  rw [isFile, readBytes]
  cases t.find path with
  | error fault => simp [bind, Except.bind]
  | ok found =>
    obtain ⟨l, e⟩ := found
    cases e with
    | directory => simp [bind, Except.bind, throw, throwThe, MonadExceptOf.throw]
    | file b => simp [bind, Except.bind, pure, Except.pure]

theorem isDirectory_iff : t.isDirectory path = true ↔ ∃ l, t.find path = .ok (l, .directory) := by
  rw [isDirectory]
  split
  · rename_i l h
    simp [h]
  · rename_i h
    simp only [Bool.false_eq_true, false_iff, not_exists]
    exact h

theorem isFile_eq_false (h : ∀ content, t.readBytes path ≠ .ok content) :
    t.isFile path = false := by
  rw [← Bool.not_eq_true, isFile_iff, not_exists]
  exact h

/-- The paths lead to one location. -/
def SamePlace (t : FileTree) (path path' : String) : Prop :=
  ∃ l, t.locate path = .ok l ∧ t.locate path' = .ok l

/-- What is read has a place. -/
theorem samePlace_self (h : t.readBytes path = .ok content) : t.SamePlace path path := by
  obtain ⟨l, hlocate, -⟩ := readBytes_eq_ok.1 h
  exact ⟨l, hlocate, hlocate⟩

/-! ### Trees that differ in one place -/

/-- The trees differ at one location at most, and no directory is there in either of them. -/
structure SameBut (t t' : FileTree) (l : Location) : Prop where
  working : t'.working = t.working
  elsewhere : ∀ k, k ≠ l → t'.entry? k = t.entry? k
  noDirectory : t.entry? l ≠ some .directory
  noDirectory' : t'.entry? l ≠ some .directory

theorem SameBut.symm (h : SameBut t t' l) : SameBut t' t l :=
  ⟨h.working.symm, fun k hk => (h.elsewhere k hk).symm, h.noDirectory', h.noDirectory⟩

/-- Directories are the same. -/
theorem SameBut.directory_iff (h : SameBut t t' l) :
    t'.entry? k = some .directory ↔ t.entry? k = some .directory := by
  by_cases hk : k = l
  · subst hk
    exact ⟨fun h' => absurd h' h.noDirectory', fun h' => absurd h' h.noDirectory⟩
  · rw [h.elsewhere k hk]

/-- Names are followed through directories only. -/
theorem follow_of_directories {names : List String}
    (directories : ∀ k, t.entry? k = some .directory → t'.entry? k = some .directory)
    (h : t.follow k names = .ok l) : t'.follow k names = .ok l := by
  induction names generalizing k with
  | nil => exact h
  | cons name names ih =>
    have hdirectory := entry?_of_follow (List.cons_ne_nil name names) h
    rw [follow, hdirectory] at h
    rw [follow, directories k hdirectory]
    dsimp only at h ⊢
    split at h
    · rw [if_pos ‹_›]
      exact ih h
    · rw [if_neg ‹_›]
      split at h
      · rw [if_pos ‹_›]
        exact ih h
      · rw [if_neg ‹_›]
        split at h
        · cases h
        · rw [if_neg ‹_›]
          exact ih h

theorem SameBut.locate_of_locate (h : SameBut t t' l) (hk : t.locate path = .ok k) :
    t'.locate path = .ok k := by
  obtain ⟨hpath, hfollow⟩ := locate_eq_ok.1 hk
  refine locate_eq_ok.2 ⟨hpath, ?_⟩
  rw [origin, h.working]
  exact follow_of_directories (fun m hm => h.directory_iff.2 hm) hfollow

/-- **Every path leads where it led before.** -/
theorem SameBut.locate_iff (h : SameBut t t' l) :
    t'.locate path = .ok k ↔ t.locate path = .ok k :=
  ⟨h.symm.locate_of_locate, h.locate_of_locate⟩

/-- What is read at another location is the same. -/
theorem SameBut.readBytes_of_ne (h : SameBut t t' l) (hread : t.readBytes path = .ok content)
    (apart : t.locate path ≠ .ok l) : t'.readBytes path = .ok content := by
  obtain ⟨k, hk, hentry⟩ := readBytes_eq_ok.1 hread
  refine readBytes_eq_ok.2 ⟨k, h.locate_iff.2 hk, ?_⟩
  rw [h.elsewhere k (fun hkl => apart (hkl ▸ hk))]
  exact hentry

/-! ### Writing -/

/-- A file is written at the location of its path, in a directory and where there is none.  A path
that ends with a slash is no path of a file. -/
theorem target_eq_ok : t.target path = .ok l ↔ path.toList.getLast? ≠ some '/' ∧
    t.locate path = .ok l ∧ t.entry? l.dropLast = some .directory ∧
      t.entry? l ≠ some .directory := by
  rw [target]
  by_cases htrailing : path.toList.getLast? = some '/'
  · simp only [htrailing, if_true, bind, Except.bind]
    split
    · simp
    · split <;> simp [throw, throwThe, MonadExceptOf.throw]
  · simp only [htrailing, if_false, bind, Except.bind]
    cases hlocate : t.locate path with
    | error fault => simp
    | ok m =>
      simp only [Except.ok.injEq]
      split
      · rename_i hdirectory
        simp only [throw, throwThe, MonadExceptOf.throw, reduceCtorEq, false_iff]
        rintro ⟨-, rfl, -, hne⟩
        exact hne hdirectory
      · rename_i hparent hne
        simp only [pure, Except.pure, Except.ok.injEq]
        constructor
        · rintro rfl
          exact ⟨htrailing, rfl, hparent, hne⟩
        · exact fun h => h.2.1
      · rename_i hparent
        simp only [throw, throwThe, MonadExceptOf.throw, reduceCtorEq, false_iff]
        rintro ⟨-, rfl, h, -⟩
        rw [hparent] at h
        cases h
      · rename_i hparent
        simp only [throw, throwThe, MonadExceptOf.throw, reduceCtorEq, false_iff]
        rintro ⟨-, rfl, h, -⟩
        rw [hparent] at h
        cases h

/-- **Writing a file changes the location of its path only.** -/
theorem sameBut_of_write (h : t.write path content = .ok t') :
    ∃ l, t.locate path = .ok l ∧ t.SameBut t' l ∧ t'.entry? l = some (.file content) := by
  rw [write, map_eq_ok] at h
  obtain ⟨l, htarget, rfl⟩ := h
  obtain ⟨-, hlocate, -, hne⟩ := target_eq_ok.1 htarget
  have hput := fun k => t.entry?_put (e := .file content) (ne_root hne) k
  have hself : entry? (t.put l (.file content)) l = some (.file content) := by
    rw [hput, if_pos rfl]
  refine ⟨l, hlocate, ⟨rfl, fun k hk => ?_, hne, ?_⟩, hself⟩
  · rw [hput, if_neg hk]
  · rw [hself]
    simp

theorem readBytes_write_self (h : t.write path content = .ok t') :
    t'.readBytes path = .ok content := by
  obtain ⟨l, hlocate, same, hentry⟩ := sameBut_of_write h
  exact readBytes_eq_ok.2 ⟨l, same.locate_iff.2 hlocate, hentry⟩

/-! ### Removing -/

/-- **Removing a file changes the location of its path only.** -/
theorem sameBut_of_remove (h : t.remove path = .ok t') :
    ∃ l, t.locate path = .ok l ∧ t.SameBut t' l ∧ t'.entry? l = none := by
  rw [remove, bind_eq_ok] at h
  obtain ⟨⟨l, e⟩, hfind, h⟩ := h
  cases e with
  | directory => cases h
  | file old =>
    cases h
    obtain ⟨hlocate, hentry⟩ := find_eq_ok.1 hfind
    have hne : t.entry? l ≠ some .directory := by
      rw [hentry]
      simp
    have hdrop := fun k => t.entry?_drop (ne_root hne) k
    have hself : entry? (t.drop l) l = none := by rw [hdrop, if_pos rfl]
    refine ⟨l, hlocate, ⟨rfl, fun k hk => ?_, hne, ?_⟩, hself⟩
    · rw [hdrop, if_neg hk]
    · rw [hself]
      simp

/-- What can be read can be removed. -/
theorem remove_of_readBytes (h : t.readBytes path = .ok content) :
    ∃ t', t.remove path = .ok t' := by
  obtain ⟨l, hlocate, hentry⟩ := readBytes_eq_ok.1 h
  rw [remove, find_eq_ok.2 ⟨hlocate, hentry⟩]
  exact ⟨_, rfl⟩

/-! ### Names in a directory -/

variable {dir name name' : String}

/-- **Two names in a directory are at two locations.** -/
theorem locate_join_ne (hname : Path.IsName name) (hname' : Path.IsName name') (hne : name ≠ name')
    (h : t.locate (Path.join dir name) = .ok l) : t.locate (Path.join dir name') ≠ .ok l := by
  intro h'
  obtain ⟨base, hl⟩ := locate_join_eq_append hname h
  obtain ⟨base', hl'⟩ := locate_join_eq_append hname' h'
  rw [hl] at hl'
  have hlast : [name] = [name'] := (List.append_inj' hl' rfl).2
  exact hne (List.singleton_inj.1 hlast)

/-- **What stands in a directory is not changed when another name is written there.** -/
theorem readBytes_write_of_ne {old : Bytes} (hname : Path.IsName name)
    (hname' : Path.IsName name') (hne : name ≠ name')
    (h : t.write (Path.join dir name) content = .ok t')
    (hread : t.readBytes (Path.join dir name') = .ok old) :
    t'.readBytes (Path.join dir name') = .ok old := by
  obtain ⟨l, hlocate, same, -⟩ := sameBut_of_write h
  exact same.readBytes_of_ne hread (locate_join_ne hname hname' hne hlocate)

end FileTree

end SuiteRunner
