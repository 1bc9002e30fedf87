import SuiteRunner.Proofs.FileChanges

/-!
# Directories that are created

Creating a directory puts new directories where nothing was, and changes nothing else.  What is read
at a path that does not lead up is then the same as before.

* `FileTree.IsRegular`, trees in which every entry is in a directory;
* `FileTree.Grown`, trees with more directories, and **`FileTree.grown_of_createDirectories`**;
* `FileTree.ReadsAs`, the same is read at a path, with **`FileTree.Grown.readsAs`** and
  `FileTree.readsAs_of_write`;
* `FileTree.KeepsFile`, a location where a file stays, and `FileTree.NewFile`, one where a file is new.
-/

namespace SuiteRunner

/-! ### Extensions -/

/-- The extensions have different last characters. -/
def Apart (extension extension' : String) : Prop :=
  extension.toList ≠ [] ∧ extension'.toList ≠ [] ∧
    extension.toList.getLast? ≠ extension'.toList.getLast?

instance (extension extension' : String) : Decidable (Apart extension extension') :=
  inferInstanceAs (Decidable (_ ∧ _ ∧ _))

theorem Apart.append_ne {extension extension' : String} (apart : Apart extension extension')
    (name name' : String) : name ++ extension ≠ name' ++ extension' := by
  obtain ⟨hsome, hsome', hlast⟩ := apart
  intro h
  have hends := congrArg (fun s : String => s.toList.getLast?) h
  simp only [String.toList_append, List.getLast?_append, List.getLast?_eq_some_getLast hsome,
    List.getLast?_eq_some_getLast hsome', Option.some_or] at hends
  rw [List.getLast?_eq_some_getLast hsome, List.getLast?_eq_some_getLast hsome'] at hlast
  exact hlast hends

/-- The last name of the path is a name with the extension. -/
def Path.EndsWith (path extension : String) : Prop :=
  ∃ dir name, path = join dir (name ++ extension) ∧ IsName (name ++ extension)

/-- The last name of the location is a name with the extension. -/
def Location.EndsWith (l : Location) (extension : String) : Prop :=
  ∃ base name, l = base ++ [name ++ extension]

theorem Location.EndsWith.ne {k l : Location} {extension extension' : String}
    (hk : k.EndsWith extension) (hl : l.EndsWith extension') (apart : Apart extension extension') :
    k ≠ l := by
  obtain ⟨base, name, rfl⟩ := hk
  obtain ⟨base', name', rfl⟩ := hl
  intro h
  have hlast : [name ++ extension] = [name' ++ extension'] := (List.append_inj' h rfl).2
  exact apart.append_ne name name' (List.singleton_inj.1 hlast)

namespace FileTree

variable {t t' t'' : FileTree} {k l : Location} {path : String} {content : Bytes}

/-- A path with an extension leads to a location with it. -/
theorem endsWith_of_locate {extension : String} (hpath : Path.EndsWith path extension)
    (h : t.locate path = .ok l) : l.EndsWith extension := by
  obtain ⟨dir, name, rfl, hname⟩ := hpath
  obtain ⟨base, rfl⟩ := locate_join_eq_append hname h
  exact ⟨base, name, rfl⟩

/-! ### Regular trees -/

/-- Every entry is in a directory, and the working directory is named by names that do not lead
anywhere else. -/
structure IsRegular (t : FileTree) : Prop where
  inside : ∀ l name, t.entry? (l ++ [name]) ≠ none → t.entry? l = some .directory
  working : ∀ name ∈ t.working, Path.IsName name

namespace IsRegular

/-- Nothing but one name, in the root. -/
theorem single (name : String) (e : Entry) : IsRegular ⟨[([name], e)], []⟩ where
  inside l last h := by
    have hmem := (mem_keys_iff (by simp)).2 h
    rw [List.map_singleton, List.mem_singleton, List.append_eq_singleton_iff] at hmem
    rw [hmem.elim And.left fun h => absurd h.2 (List.cons_ne_nil last [])]
    rfl
  working := by simp

/-- A change at one location where no directory is keeps a tree regular, if what comes there comes
into a directory. -/
theorem of_sameBut (regular : t.IsRegular) (same : t.SameBut t' l)
    (inside : t'.entry? l ≠ none → t.entry? l.dropLast = some .directory) : t'.IsRegular where
  working := by
    rw [same.working]
    exact regular.working
  inside k name h := by
    refine same.directory_iff.2 ?_
    by_cases hl : k ++ [name] = l
    · subst hl
      rw [← inside h, List.dropLast_concat]
    · rw [same.elsewhere _ hl] at h
      exact regular.inside k name h

end IsRegular

/-- **Writing a file keeps a tree regular.** -/
theorem IsRegular.write (regular : t.IsRegular) (h : t.write path content = .ok t') :
    t'.IsRegular := by
  obtain ⟨l, hlocate, same, -⟩ := sameBut_of_write h
  rw [FileTree.write, map_eq_ok] at h
  obtain ⟨m, htarget, -⟩ := h
  obtain ⟨-, hm, hparent, -⟩ := target_eq_ok.1 htarget
  have hml : m = l := by
    rw [hm] at hlocate
    exact Except.ok.inj hlocate
  exact regular.of_sameBut same fun _ => hml ▸ hparent

/-- **Removing a file keeps a tree regular.** -/
theorem IsRegular.remove (regular : t.IsRegular) (h : t.remove path = .ok t') : t'.IsRegular := by
  obtain ⟨l, -, same, hnone⟩ := sameBut_of_remove h
  exact regular.of_sameBut same fun hsome => absurd hnone hsome

/-! ### New directories -/

/-- The tree has got directories where nothing was, each of them in a directory. -/
structure Grown (t t' : FileTree) : Prop where
  working : t'.working = t.working
  entries : ∀ k, t'.entry? k = t.entry? k ∨
    t.entry? k = none ∧ t'.entry? k = some .directory ∧ t'.entry? k.dropLast = some .directory

namespace Grown

theorem refl (t : FileTree) : t.Grown t := ⟨rfl, fun _ => .inl rfl⟩

theorem directory (h : t.Grown t') (hk : t.entry? k = some .directory) :
    t'.entry? k = some .directory := by
  rcases h.entries k with heq | ⟨hnone, -, -⟩
  · rw [heq, hk]
  · rw [hk] at hnone
    cases hnone

theorem file_iff (h : t.Grown t') :
    t'.entry? k = some (.file content) ↔ t.entry? k = some (.file content) := by
  rcases h.entries k with heq | ⟨hnone, hdirectory, -⟩
  · rw [heq]
  · simp [hnone, hdirectory]

theorem trans (h : t.Grown t') (h' : t'.Grown t'') : t.Grown t'' where
  working := h'.working.trans h.working
  entries k := by
    rcases h'.entries k with heq' | ⟨hnone', hnew'⟩
    · rcases h.entries k with heq | ⟨hnone, hnew, hparent⟩
      · exact .inl (heq'.trans heq)
      · exact .inr ⟨hnone, heq'.trans hnew, h'.directory hparent⟩
    · rcases h.entries k with heq | ⟨-, hnew, -⟩
      · exact .inr ⟨heq ▸ hnone', hnew'⟩
      · rw [hnone'] at hnew
        cases hnew

/-- **New directories keep a tree regular.** -/
theorem isRegular (h : t.Grown t') (regular : t.IsRegular) : t'.IsRegular where
  working := by
    rw [h.working]
    exact regular.working
  inside k name hsome := by
    rcases h.entries (k ++ [name]) with heq | ⟨-, -, hparent⟩
    · rw [heq] at hsome
      exact h.directory (regular.inside k name hsome)
    · rwa [List.dropLast_concat] at hparent

end Grown

theorem grown_put (hnone : t.entry? l = none) (hparent : t.entry? l.dropLast = some .directory) :
    t.Grown (t.put l .directory) := by
  have hl : l ≠ [] := ne_root (show t.entry? l ≠ some .directory by simp [hnone])
  refine ⟨rfl, fun k => ?_⟩
  rw [entry?_put hl]
  by_cases hk : k = l
  · subst hk
    have hdrop : k.dropLast ≠ k := by
      intro h
      rw [h, hnone] at hparent
      cases hparent
    rw [if_pos rfl, entry?_put hl, if_neg hdrop]
    exact .inr ⟨hnone, rfl, hparent⟩
  · rw [if_neg hk]
    exact .inl rfl

theorem grown_of_createDirectory (h : t.createDirectory path = .ok t') : t.Grown t' := by
  rw [createDirectory, bind_eq_ok] at h
  obtain ⟨l, -, h⟩ := h
  split at h
  · cases h
  · rename_i hnone hparent
    cases h
    exact grown_put hnone hparent
  · cases h
  · cases h

/-- **How a directory is created**: there is nothing to do, or the directories around it are created
first, if they are missing; then it is created itself, or was there before. -/
theorem createUpTo_cases {fuel : Nat} (h : t.createUpTo path (fuel + 1) = .ok t') :
    path = "" ∧ t' = t ∨ path ≠ "" ∧
      ∃ u, (u = t ∨ ∃ parent, Path.parent? path = some parent ∧
          t.createUpTo parent fuel = .ok u) ∧
        (u.createDirectory path = .ok t' ∨ u.isDirectory path = true ∧ t' = u) := by
  rw [createUpTo] at h
  extract_lets again at h
  have hagain : ∀ u : FileTree, again u = .ok t' →
      u.createDirectory path = .ok t' ∨ u.isDirectory path = true ∧ t' = u := by
    intro u hlast
    simp only [again] at hlast
    split at hlast
    · rename_i hcreate
      exact .inl (hcreate.trans hlast)
    · split at hlast
      · cases hlast
        exact .inr ⟨‹_›, rfl⟩
      · cases hlast
  split at h
  · rename_i hempty
    cases h
    exact .inl ⟨String.isEmpty_iff.1 hempty, rfl⟩
  · rename_i hsome
    refine .inr ⟨fun hempty => hsome (String.isEmpty_iff.2 hempty), ?_⟩
    split at h
    · rename_i hcreate
      exact ⟨t, .inl rfl, .inl (hcreate.trans h)⟩
    · split at h
      · cases h
      · rename_i parent hparent
        split at h
        · rename_i u hup
          exact ⟨u, .inr ⟨parent, hparent, hup⟩, hagain u h⟩
        · cases h
    · exact ⟨t, .inl rfl, hagain t h⟩

/-- What the creation of one directory keeps is kept when all that are missing are created. -/
theorem createUpTo_induction {P : FileTree → Prop} {fuel : Nat}
    (step : ∀ {u v path}, P u → u.createDirectory path = .ok v → P v) (start : P t)
    (h : t.createUpTo path fuel = .ok t') : P t' := by
  induction fuel generalizing t' path with
  | zero => cases h
  | succ fuel ih =>
    obtain ⟨-, rfl⟩ | ⟨-, u, around, last⟩ := createUpTo_cases h
    · exact start
    · have hu : P u := by
        obtain rfl | ⟨parent, -, hup⟩ := around
        · exact start
        · exact ih hup
      obtain hcreate | ⟨-, rfl⟩ := last
      · exact step hu hcreate
      · exact hu

theorem grown_of_createUpTo {fuel : Nat} (h : t.createUpTo path fuel = .ok t') : t.Grown t' :=
  createUpTo_induction (fun hu hcreate => hu.trans (grown_of_createDirectory hcreate)) (.refl t) h

/-- **Creating directories only adds directories.** -/
theorem grown_of_createDirectories (h : t.createDirectories path = .ok t') : t.Grown t' :=
  grown_of_createUpTo h

/-! ### Reading as before -/

/-- The same is read at the path. -/
def ReadsAs (t t' : FileTree) (path : String) : Prop :=
  ∀ content, t'.readBytes path = .ok content ↔ t.readBytes path = .ok content

namespace ReadsAs

theorem refl (t : FileTree) (path : String) : t.ReadsAs t path := fun _ => Iff.rfl

theorem symm (h : t.ReadsAs t' path) : t'.ReadsAs t path := fun content => (h content).symm

theorem trans (h : t.ReadsAs t' path) (h' : t'.ReadsAs t'' path) : t.ReadsAs t'' path :=
  fun content => (h' content).trans (h content)

end ReadsAs

/-- Names are followed alike if the same directories are on the way. -/
theorem follow_of_way {names : List String} (noUp : ".." ∉ names)
    (way : ∀ m, m <+: l → t.entry? m = some .directory → t'.entry? m = some .directory)
    (h : t.follow k names = .ok l) : t'.follow k names = .ok l := by
  induction names generalizing k with
  | nil => exact h
  | cons name names ih =>
    have hway : k <+: l := ⟨_, (follow_eq_append noUp h).symm⟩
    have hdirectory := entry?_of_follow (List.cons_ne_nil name names) h
    have hnames : ".." ∉ names := fun hmem => noUp (List.mem_cons_of_mem _ hmem)
    have hname : name ≠ ".." := fun heq => noUp (heq ▸ List.mem_cons_self)
    rw [follow, hdirectory] at h
    rw [follow, way k hway hdirectory]
    simp only [hname, if_false] at h ⊢
    split at h
    · rw [if_pos ‹_›]
      exact ih hnames h
    · rw [if_neg ‹_›]
      split at h
      · cases h
      · rw [if_neg ‹_›]
        exact ih hnames h

/-- What was read before is read when there are new directories. -/
theorem Grown.readBytes (h : t.Grown t') (hread : t.readBytes path = .ok content) :
    t'.readBytes path = .ok content := by
  obtain ⟨l, hlocate, hentry⟩ := readBytes_eq_ok.1 hread
  obtain ⟨hpath, hfollow⟩ := locate_eq_ok.1 hlocate
  refine readBytes_eq_ok.2 ⟨l, locate_eq_ok.2 ⟨hpath, ?_⟩, h.file_iff.2 hentry⟩
  rw [origin, h.working]
  exact follow_of_directories (fun k => h.directory) hfollow

/-- **New directories do not change what is read at a path that does not lead up**: all directories
on the way to a file of a regular tree were there before. -/
theorem Grown.readsAs (h : t.Grown t') (regular : t.IsRegular)
    (noUp : Path.up ∉ Path.pieces path) : t.ReadsAs t' path := by
  have hnames : ".." ∉ (Path.pieces path).map String.ofList := by
    rintro hmem
    obtain ⟨piece, hpiece, hup⟩ := List.mem_map.1 hmem
    have : piece = Path.up := by
      rw [← String.toList_ofList (l := piece), hup]
      rfl
    exact noUp (this ▸ hpiece)
  refine fun content => ⟨fun hread => ?_, h.readBytes⟩
  obtain ⟨l, hlocate, hentry⟩ := readBytes_eq_ok.1 hread
  obtain ⟨hpath, hfollow⟩ := locate_eq_ok.1 hlocate
  have hfile := h.file_iff.1 hentry
  refine readBytes_eq_ok.2 ⟨l, locate_eq_ok.2 ⟨hpath, ?_⟩, hfile⟩
  rw [origin, h.working] at hfollow
  refine follow_of_way hnames (fun m hm hdirectory => ?_) hfollow
  obtain ⟨rest, rfl⟩ := hm
  by_cases hrest : rest = []
  · rw [hrest, List.append_nil, hdirectory] at hentry
    cases hentry
  · exact directory_of_append regular.inside hrest (by rw [hfile]; simp)

/-! ### Files that stay -/

/-- A file stands at the location in one tree exactly if it does in the other. -/
def KeepsFile (l : Location) (t t' : FileTree) : Prop :=
  ∀ content, t'.entry? l = some (.file content) ↔ t.entry? l = some (.file content)

namespace KeepsFile

theorem refl (l : Location) (t : FileTree) : KeepsFile l t t := fun _ => Iff.rfl

theorem trans (h : KeepsFile l t t') (h' : KeepsFile l t' t'') : KeepsFile l t t'' :=
  fun content => (h' content).trans (h content)

end KeepsFile

/-- A file stands at the location in the later tree, and none does in the earlier one. -/
def NewFile (l : Location) (t t' : FileTree) : Prop :=
  (∃ content, t'.entry? l = some (.file content)) ∧ ∀ content, t.entry? l ≠ some (.file content)

theorem KeepsFile.not_newFile (h : KeepsFile l t t') : ¬ NewFile l t t' := by
  rintro ⟨⟨content, hentry⟩, hnone⟩
  exact hnone content ((h content).1 hentry)

theorem Grown.keepsFile (h : t.Grown t') (l : Location) : KeepsFile l t t' := fun _ => h.file_iff

theorem SameBut.keepsFile (same : t.SameBut t' k) (hl : l ≠ k) : KeepsFile l t t' := by
  intro content
  rw [same.elsewhere l hl]

/-- **Writing a file leaves the files with another extension alone.** -/
theorem keepsFile_of_write {extension extension' : String} (h : t.write path content = .ok t')
    (hpath : Path.EndsWith path extension) (hl : l.EndsWith extension')
    (apart : Apart extension extension') : KeepsFile l t t' := by
  obtain ⟨k, hlocate, same, -⟩ := sameBut_of_write h
  exact same.keepsFile ((endsWith_of_locate hpath hlocate).ne hl apart).symm

end FileTree

end SuiteRunner
