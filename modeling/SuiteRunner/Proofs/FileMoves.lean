import SuiteRunner.Proofs.TreeGrowth

/-!
# Files that are moved

A file that is renamed stands at its new location and no longer at its old one.  Nothing else
changes, and no directory comes or goes.

* `FileTree.SameDirectories`, two trees with the same directories, in which every path leads to the
  same location;
* `FileTree.slot?`, what is read at a path, if a file is there;
* **`FileTree.moved_of_rename`** — renaming a file changes its old and its new location only;
* `FileTree.locate_join_iff`, where a name leads that is joined to a directory.
-/

namespace SuiteRunner

namespace FileTree

variable {t t' t'' : FileTree} {k l old new : Location} {path source destination dir name : String}
  {content : Bytes} {e : Entry}

/-! ### Trees with the same directories -/

/-- The trees have the same directories. -/
structure SameDirectories (t t' : FileTree) : Prop where
  working : t'.working = t.working
  directory_iff : ∀ k, t'.entry? k = some .directory ↔ t.entry? k = some .directory

namespace SameDirectories

theorem refl (t : FileTree) : t.SameDirectories t := ⟨rfl, fun _ => Iff.rfl⟩

theorem symm (h : t.SameDirectories t') : t'.SameDirectories t :=
  ⟨h.working.symm, fun k => (h.directory_iff k).symm⟩

theorem trans (h : t.SameDirectories t') (h' : t'.SameDirectories t'') : t.SameDirectories t'' :=
  ⟨h'.working.trans h.working, fun k => (h'.directory_iff k).trans (h.directory_iff k)⟩

theorem locate_of_locate (h : t.SameDirectories t') (hk : t.locate path = .ok k) :
    t'.locate path = .ok k := by
  obtain ⟨hpath, hfollow⟩ := locate_eq_ok.1 hk
  refine locate_eq_ok.2 ⟨hpath, ?_⟩
  rw [origin, h.working]
  exact follow_of_directories (fun m => (h.directory_iff m).2) hfollow

/-- **Every path leads where it led before.** -/
theorem locate_iff (h : t.SameDirectories t') : t'.locate path = .ok k ↔ t.locate path = .ok k :=
  ⟨h.symm.locate_of_locate, h.locate_of_locate⟩

theorem find_directory_iff (h : t.SameDirectories t') :
    t'.find path = .ok (k, .directory) ↔ t.find path = .ok (k, .directory) := by
  rw [find_eq_ok, find_eq_ok, h.locate_iff, h.directory_iff]

end SameDirectories

theorem SameBut.sameDirectories (h : SameBut t t' l) : t.SameDirectories t' :=
  ⟨h.working, fun _ => h.directory_iff⟩

/-! ### What stands at a path -/

theorem SameDirectories.isDirectory_eq (h : t.SameDirectories t') (path : String) :
    t'.isDirectory path = t.isDirectory path := by
  rw [Bool.eq_iff_iff, isDirectory_iff, isDirectory_iff]
  simp only [h.find_directory_iff]

theorem exists?_iff : t.exists? path = true ↔ ∃ l e, t.find path = .ok (l, e) := by
  rw [exists?]
  cases t.find path with
  | error fault => simp
  | ok found => exact ⟨fun _ => ⟨found.1, found.2, rfl⟩, fun _ => rfl⟩

/-- What is read at a path, if a file is there. -/
def slot? (t : FileTree) (path : String) : Option Bytes := (t.readBytes path).toOption

theorem slot?_eq_some : t.slot? path = some content ↔
    ∃ l, t.locate path = .ok l ∧ t.entry? l = some (.file content) := by
  rw [slot?, toOption_eq_some, readBytes_eq_ok]

/-- Where a path leads to a location that is no directory, its file is the entry there. -/
theorem slot?_of_locate (h : t.locate path = .ok l) (plain : t.entry? l ≠ some .directory) :
    (t.slot? path).map Entry.file = t.entry? l := by
  cases hentry : t.entry? l with
  | none =>
    have hnone : t.slot? path = none := by
      rw [Option.eq_none_iff_forall_ne_some]
      intro content hcontent
      obtain ⟨k, hk, hfile⟩ := slot?_eq_some.1 hcontent
      cases h.symm.trans hk
      rw [hentry] at hfile
      cases hfile
    rw [hnone]
    rfl
  | some e =>
    cases e with
    | directory => exact absurd hentry plain
    | file content =>
      rw [slot?_eq_some.2 ⟨l, h, hentry⟩]
      rfl

/-- At two paths, the same is read if the same stands where they lead. -/
theorem slot?_eq_of_entry? {path' : String} {l' : Location} (h : t.locate path = .ok l)
    (plain : t.entry? l ≠ some .directory) (h' : t'.locate path' = .ok l')
    (heq : t'.entry? l' = t.entry? l) : t'.slot? path' = t.slot? path := by
  have hslot := slot?_of_locate h plain
  have hslot' := slot?_of_locate h' (heq ▸ plain)
  refine Option.map_injective (fun b c h => ?_) (hslot'.trans (heq.trans hslot.symm))
  exact Entry.file.inj h

theorem SameBut.slot?_eq (same : SameBut t t' l) (apart : t.locate path ≠ .ok l) :
    t'.slot? path = t.slot? path := by
  refine Option.ext fun b => ?_
  rw [slot?, slot?, toOption_eq_some, toOption_eq_some]
  exact ⟨fun h => same.symm.readBytes_of_ne h (mt same.locate_iff.1 apart),
    fun h => same.readBytes_of_ne h apart⟩

/-- A path exists exactly if a file is there, if no directory is. -/
theorem exists?_eq_isSome (plain : ∀ l, t.locate path = .ok l → t.entry? l ≠ some .directory) :
    t.exists? path = (t.slot? path).isSome := by
  rw [Bool.eq_iff_iff, exists?_iff, Option.isSome_iff_exists]
  constructor
  · rintro ⟨l, e, hfind⟩
    obtain ⟨hlocate, hentry⟩ := find_eq_ok.1 hfind
    cases e with
    | directory => exact absurd hentry (plain l hlocate)
    | file content => exact ⟨content, slot?_eq_some.2 ⟨l, hlocate, hentry⟩⟩
  · rintro ⟨content, hcontent⟩
    obtain ⟨l, hlocate, hentry⟩ := slot?_eq_some.1 hcontent
    exact ⟨l, _, find_eq_ok.2 ⟨hlocate, hentry⟩⟩

/-- The size of what is read at a path, if no directory is there. -/
theorem size?_eq_length (plain : ∀ l, t.locate path = .ok l → t.entry? l ≠ some .directory) :
    t.size? path = (t.slot? path).map List.length := by
  rw [size?]
  split
  · rename_i l content hfind
    rw [slot?_eq_some.2 ⟨l, find_eq_ok.1 hfind⟩]
    rfl
  · rename_i l hfind
    obtain ⟨hlocate, hentry⟩ := find_eq_ok.1 hfind
    exact absurd hentry (plain l hlocate)
  · rename_i fault hfind
    have hnone : t.slot? path = none := by
      rw [Option.eq_none_iff_forall_ne_some]
      intro content hcontent
      obtain ⟨l, hlocate, hentry⟩ := slot?_eq_some.1 hcontent
      rw [find_eq_ok.2 ⟨hlocate, hentry⟩] at hfind
      cases hfind
    rw [hnone]
    rfl

/-! ### Renaming -/

/-- What is looked up among entries that were kept and put elsewhere: the entry that came there. -/
theorem lookup_filter_map (keep : Location → Bool) {put : Location → Location}
    {es : List (Location × Entry)}
    (came : ∀ m ∈ es.map Prod.fst, keep m = true → (put m = k ↔ m = l))
    (kept : l ∈ es.map Prod.fst → keep l = true) :
    ((es.filter fun x => keep x.1).map fun x => (put x.1, x.2)).lookup k = es.lookup l := by
  induction es with
  | nil => rfl
  | cons x es ih =>
    have hrest := ih (fun m hm => came m (List.mem_cons_of_mem _ hm))
      fun hl => kept (List.mem_cons_of_mem _ hl)
    have hput := came x.1 List.mem_cons_self
    rw [List.lookup_cons]
    by_cases hx : x.1 = l
    · have hkeep : keep x.1 = true := hx ▸ kept (hx ▸ List.mem_cons_self)
      rw [List.filter_cons_of_pos (by exact hkeep), List.map_cons, List.lookup_cons,
        beq_iff_eq.2 ((hput hkeep).2 hx).symm, beq_iff_eq.2 hx.symm]
    · rw [beq_eq_false_iff_ne.2 (Ne.symm hx)]
      by_cases hkeep : keep x.1 = true
      · have hne : k ≠ put x.1 := fun h => hx ((hput hkeep).1 h.symm)
        rw [List.filter_cons_of_pos (by exact hkeep), List.map_cons, List.lookup_cons,
          beq_eq_false_iff_ne.2 hne]
        exact hrest
      · rw [List.filter_cons_of_neg (by exact hkeep)]
        exact hrest

/-- Nothing is below what is no directory. -/
theorem not_below (regular : t.IsRegular) (plain : t.entry? l ≠ some .directory)
    (h : t.entry? k ≠ none) (below : l <+: k) : k = l := by
  obtain ⟨names, rfl⟩ := below
  by_cases hnames : names = []
  · rw [hnames, List.append_nil]
  · exact absurd (directory_of_append regular.inside hnames h) plain

/-- The file has gone from the old location to the new one. -/
structure Moved (t t' : FileTree) (old new : Location) : Prop where
  working : t'.working = t.working
  source : ∃ content, t.entry? old = some (.file content)
  plain : t.entry? new ≠ some .directory
  parent : t.entry? new.dropLast = some .directory
  entries : ∀ k, t'.entry? k =
    if k = new then t.entry? old else if k = old then none else t.entry? k

theorem isPrefixOf_iff_eq (regular : t.IsRegular) (plain : t.entry? l ≠ some .directory)
    {m : Location} (hm : m ∈ t.entries.map Prod.fst) : l.isPrefixOf m = true ↔ m = l := by
  rw [List.isPrefixOf_iff_prefix]
  constructor
  · intro below
    have hmnil : m ≠ [] := fun h => ne_root plain (List.prefix_nil.1 (h ▸ below))
    exact not_below regular plain ((mem_keys_iff hmnil).1 hm) below
  · rintro rfl
    exact List.prefix_refl m

/-- Where an entry of a regular tree goes when a file is moved. -/
theorem relocate_eq (regular : t.IsRegular) (hold : t.entry? old ≠ some .directory) {m : Location}
    (hm : m ∈ t.entries.map Prod.fst) : relocate old new m = if m = old then new else m := by
  simp only [relocate, isPrefixOf_iff_eq regular hold hm]
  split
  · rename_i h
    simp [h]
  · rfl

/-- Which entries stay when a file makes room: all but the file itself. -/
theorem stays_iff (regular : t.IsRegular) (plain : t.entry? l ≠ some .directory) {m : Location}
    (hm : m ∈ t.entries.map Prod.fst) : (!l.isPrefixOf m) = true ↔ m ≠ l := by
  rw [Bool.not_eq_true', ← Bool.not_eq_true, isPrefixOf_iff_eq regular plain hm]

theorem entries_move (hne : old ≠ new) : (t.move old new).entries =
    (t.entries.filter fun x => !new.isPrefixOf x.1).map fun x => (relocate old new x.1, x.2) := by
  rw [move, if_neg hne]

theorem entry?_move_new (regular : t.IsRegular) (hold : t.entry? old ≠ some .directory)
    (hnew : t.entry? new ≠ some .directory) (hne : old ≠ new) :
    entry? (t.move old new) new = t.entry? old := by
  rw [entry?_eq_lookup (ne_root hnew), entry?_eq_lookup (ne_root hold), entries_move hne]
  refine lookup_filter_map (fun m => !new.isPrefixOf m) (fun m hm hstays => ?_)
    fun hmem => (stays_iff regular hnew hmem).2 hne
  rw [relocate_eq regular hold hm]
  split
  · exact iff_of_true rfl ‹_›
  · exact iff_of_false ((stays_iff regular hnew hm).1 hstays) ‹_›

theorem entry?_move_of_ne (regular : t.IsRegular) (hold : t.entry? old ≠ some .directory)
    (hnew : t.entry? new ≠ some .directory) (hne : old ≠ new) (hk : k ≠ new) (hroot : k ≠ []) :
    entry? (t.move old new) k = if k = old then none else t.entry? k := by
  rw [entry?_eq_lookup hroot, entries_move hne]
  split
  · -- Nothing is put where the file came from.
    subst k
    rw [List.lookup_eq_none_iff]
    intro x hx
    obtain ⟨y, hy, rfl⟩ := List.mem_map.1 hx
    have hmem := List.mem_map_of_mem (f := Prod.fst) (List.mem_filter.1 hy).1
    have hother : old ≠ relocate old new y.1 := by
      rw [relocate_eq regular hold hmem]
      split
      · exact hne
      · exact Ne.symm ‹_›
    simpa using hother
  · rename_i hkold
    rw [entry?_eq_lookup hroot]
    refine lookup_filter_map (fun m => !new.isPrefixOf m) (fun m hm _ => ?_)
      fun hmem => (stays_iff regular hnew hmem).2 hk
    rw [relocate_eq regular hold hm]
    split
    · rename_i hmold
      exact iff_of_false (Ne.symm hk) fun h => hkold (h.symm.trans hmold)
    · exact Iff.rfl

/-- **Moving a file changes its old and its new location only.** -/
theorem moved_move (regular : t.IsRegular) (hold : t.entry? old = some (.file content))
    (hnew : t.entry? new ≠ some .directory) (hparent : t.entry? new.dropLast = some .directory)
    (hne : old ≠ new) : t.Moved (t.move old new) old new := by
  have hold' : t.entry? old ≠ some .directory := by simp [hold]
  refine ⟨by rw [move, if_neg hne], ⟨content, hold⟩, hnew, hparent, fun k => ?_⟩
  by_cases hknew : k = new
  · rw [hknew, if_pos rfl]
    exact entry?_move_new regular hold' hnew hne
  · rw [if_neg hknew]
    by_cases hroot : k = []
    · rw [hroot, if_neg (Ne.symm (ne_root hold'))]
      rfl
    · exact entry?_move_of_ne regular hold' hnew hne hknew hroot

/-- **Renaming a file changes its old and its new location only**, if these are different. -/
theorem moved_of_rename (regular : t.IsRegular) (h : t.rename source destination = .ok t')
    (hold : t.locate source = .ok old) (hnew : t.locate destination = .ok new)
    (plain : t.entry? old ≠ some .directory) (hne : old ≠ new) : t.Moved t' old new := by
  rw [rename, bind_eq_ok] at h
  obtain ⟨⟨l, e⟩, hfind, h⟩ := h
  obtain ⟨hlocate, hentry⟩ := find_eq_ok.1 hfind
  cases hold.symm.trans hlocate
  obtain ⟨m, hm, h⟩ := bind_eq_ok.1 h
  cases hnew.symm.trans hm
  cases e with
  | directory => exact absurd hentry plain
  | file content =>
    dsimp only at h
    split at h
    · rename_i hparent
      split at h
      · rename_i hnone
        cases h
        exact moved_move regular hentry (by simp [hnone]) hparent hne
      · rename_i hfile
        cases h
        exact moved_move regular hentry (by simp [hfile]) hparent hne
      · cases h
      · rename_i hfile _
        cases hfile
      · rename_i hfile _
        cases hfile
    · cases h
    · cases h

/-- A file can be renamed where there is a place for another file. -/
theorem rename_of_file (hold : t.locate source = .ok old)
    (hentry : t.entry? old = some (.file content)) (hnew : t.locate destination = .ok new)
    (hparent : t.entry? new.dropLast = some .directory) (plain : t.entry? new ≠ some .directory) :
    ∃ t', t.rename source destination = .ok t' := by
  rw [rename, find_eq_ok.2 ⟨hold, hentry⟩]
  simp only [bind, Except.bind, hnew, hparent]
  cases hplace : t.entry? new with
  | none => exact ⟨_, rfl⟩
  | some e =>
    cases e with
    | directory => exact absurd hplace plain
    | file old => exact ⟨_, rfl⟩

namespace Moved

theorem sameDirectories (h : t.Moved t' old new) : t.SameDirectories t' := by
  refine ⟨h.working, fun k => ?_⟩
  obtain ⟨content, hsource⟩ := h.source
  rw [h.entries]
  split
  · rename_i hk
    rw [hk, hsource]
    exact iff_of_false (by simp) h.plain
  · split
    · rename_i hk
      rw [hk, hsource]
      simp
    · exact Iff.rfl

/-- **Renaming a file keeps a tree regular.** -/
theorem isRegular (h : t.Moved t' old new) (regular : t.IsRegular) : t'.IsRegular where
  working := by
    rw [h.working]
    exact regular.working
  inside l name hsome := by
    rw [h.sameDirectories.directory_iff]
    rw [h.entries] at hsome
    split at hsome
    · rename_i hnew
      have hparent := h.parent
      rwa [← hnew, List.dropLast_concat] at hparent
    · split at hsome
      · exact absurd rfl hsome
      · exact regular.inside l name hsome

end Moved

/-! ### Names in a directory -/

/-- **Where a name leads that is joined to a directory.** -/
theorem locate_join_iff (hname : Path.IsName name) : t.locate (Path.join dir name) = .ok l ↔
    ('\x00' ∉ (Path.join dir name).toList ∧ (Path.join dir name).utf8ByteSize < pathLimit ∧
      name.utf8ByteSize ≤ nameLimit) ∧
    ∃ base, t.follow (t.origin (Path.join dir name)) ((Path.lead dir).map String.ofList) =
      .ok base ∧ t.entry? base = some .directory ∧ l = base ++ [name] := by
  have hnonempty : Path.join dir name ≠ "" := by
    intro h
    have hlist := congrArg String.toList h
    rw [Path.toList_join dir hname.relative, String.toList_empty, List.append_eq_nil_iff] at hlist
    exact hname.1 (String.toList_eq_nil_iff.1 hlist.2)
  have hone : ∀ base, t.follow base [name] = .ok l ↔
      name.utf8ByteSize ≤ nameLimit ∧ t.entry? base = some .directory ∧ l = base ++ [name] := by
    intro base
    rw [follow]
    cases hbase : t.entry? base with
    | none => simp
    | some e =>
      cases e with
      | file content => simp
      | directory =>
        by_cases hsize : nameLimit < name.utf8ByteSize
        · simp [hname.1, hname.2.2.1, hname.2.2.2, hsize, Nat.not_le.2 hsize]
        · simp [hname.1, hname.2.2.1, hname.2.2.2, hsize, follow, Nat.not_lt.1 hsize, eq_comm]
  rw [locate_eq_ok, Path.pieces_join dir hname.relative, hname.pieces_eq, List.map_append,
    List.map_singleton, String.ofList_toList, follow_append]
  cases hlead : t.follow (t.origin (Path.join dir name)) ((Path.lead dir).map String.ofList) with
  | error fault => simp [Except.bind]
  | ok base =>
    show (_ ∧ t.follow base [name] = .ok l) ↔ _
    rw [hone]
    simp only [ne_eq, hnonempty, not_false_eq_true, true_and, Except.ok.injEq]
    constructor
    · rintro ⟨⟨hnul, hpath⟩, hsize, hdirectory, hl⟩
      exact ⟨⟨hnul, hpath, hsize⟩, base, rfl, hdirectory, hl⟩
    · rintro ⟨⟨hnul, hpath, hsize⟩, _, rfl, hdirectory, hl⟩
      exact ⟨⟨hnul, hpath⟩, hsize, hdirectory, hl⟩

end FileTree

end SuiteRunner
