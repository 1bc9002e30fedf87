import SuiteRunner.CrashLog
import SuiteRunner.Proofs.CreatedDirectories

/-!
# The places of a log

A log and the logs that were put aside are files in one directory.  Putting the log aside moves each
of them one place on, whether or not the places in between are taken, and leaves the first one free.

* `CrashLog.place`, the log and after it the logs that were put aside;
* `CrashLog.Shelf`, trees in which the places of a log lead to different locations;
* `CrashLog.exists_shelf` — a log that can be written has such places;
* `CrashLog.Shelf.shift_eq_ok`, by induction on the number of logs that are moved;
* **`CrashLog.Shelf.rotate_moves`** — every log is one place further when the log is put aside;
* **`CrashLog.Shelf.append_adds`** — an entry is added to the log and to no other.
-/

namespace SuiteRunner

namespace FileTree

variable {t t' : FileTree} {l : Location} {path dir p q : String}

theorem origin_join_eq (hp : Path.isAbsolute p = false) (hq : Path.isAbsolute q = false) :
    t.origin (Path.join dir p) = t.origin (Path.join dir q) := by
  by_cases hdir : dir = ""
  · have habsolute : ∀ {r : String}, Path.isAbsolute r = false →
        Path.isAbsolute (Path.join "" r) = false := by
      intro r hr
      rw [Path.isAbsolute, Path.toList_join "" hr]
      exact hr
    rw [hdir, origin, origin, habsolute hp, habsolute hq]
  · rw [origin_join hdir hp, origin_join hdir hq]

/-- **A path at which a file can be written ends with a name.** -/
theorem exists_name_of_target (regular : t.IsRegular) (h : t.target path = .ok l) :
    ∃ dir name, path = Path.join dir name ∧ Path.IsName name := by
  obtain ⟨bare, hlocate, -, plain⟩ := target_eq_ok.1 h
  obtain ⟨⟨hpath, -⟩, hfollow⟩ := locate_eq_ok.1 hlocate
  obtain ⟨dir, name, rfl, hname, hslash⟩ := Path.exists_join hpath bare
  refine ⟨dir, name, rfl, hname, hslash, ?_⟩
  have hrelative : Path.isAbsolute name = false := by
    rw [Path.isAbsolute, decide_eq_false_iff_not]
    exact fun h => hslash (List.mem_of_head? h)
  have hpieces : Path.pieces name = [name.toList] := by
    rw [Path.pieces_eq, List.splitOn_eq_singleton hslash]
  rw [Path.pieces_join dir hrelative, hpieces, List.map_append, List.map_singleton,
    String.ofList_toList, follow_append] at hfollow
  obtain ⟨base, -, hlast⟩ := bind_eq_ok.1 hfollow
  have hbase := entry?_of_follow (by simp) hlast
  rw [follow, hbase] at hlast
  -- The names that lead to directories lead to no place for a file.
  constructor
  · rintro rfl
    simp only [String.reduceEq, decide_false, decide_true, Bool.or_true, if_true, follow] at hlast
    cases hlast
    exact plain hbase
  · rintro rfl
    simp only [String.reduceEq, decide_false, Bool.or_self, Bool.false_eq_true, if_false, if_true,
      follow] at hlast
    cases hlast
    by_cases hroot : base = []
    · rw [hroot] at plain
      exact plain rfl
    · refine plain (regular.inside _ (base.getLast hroot) ?_)
      rw [List.dropLast_concat_getLast, hbase]
      simp

end FileTree

namespace CrashLog

open FileTree

variable {t t' : FileTree} {log dir name : String} {spot : Nat → Location} {m n k : Nat}
  {content entry : Bytes}

/-! ### Places -/

/-- The log, and after it the logs that were put aside. -/
def place (log : String) : Nat → String
  | 0 => log
  | n + 1 => aside log (n + 1)

/-- What a place has after the log. -/
def suffix : Nat → String
  | 0 => ""
  | n + 1 => "." ++ toString (n + 1)

theorem place_eq (log : String) (n : Nat) : place log n = log ++ suffix n := by
  cases n with
  | zero => simp [place, suffix]
  | succ n => rw [place, aside, suffix, String.append_assoc]

theorem shift_succ (log : String) (n : Nat) (t : FileTree) : shift log (n + 1) t =
    (if t.exists? (place log (n + 1)) then t.rename (place log (n + 1)) (place log (n + 2))
      else pure t) >>= shift log n := by
  rw [shift]
  show _ = (if t.exists? (aside log (n + 1)) then _ else _) >>= _
  split <;> rfl

theorem rotate_eq (t : FileTree) (log : String) : rotate t log =
    (if t.exists? (place log 3) then t.remove (place log 3) else pure t) >>= fun u =>
      shift log 2 u >>= fun v => v.rename log (place log 1) := by
  rw [rotate]
  show _ = (if t.exists? (aside log keptAside) then _ else _) >>= _
  split <;> rfl

theorem suffix_size (hm : 1 ≤ m) (hn : m ≤ 4) : (suffix m).utf8ByteSize = 2 := by
  have h : ∀ m < 5, 1 ≤ m → (suffix m).utf8ByteSize = 2 := by decide
  exact h m (by omega) hm

theorem suffix_clean (hn : n ≤ 4) : '/' ∉ (suffix n).toList ∧ '\x00' ∉ (suffix n).toList := by
  have h : ∀ n < 5, '/' ∉ (suffix n).toList ∧ '\x00' ∉ (suffix n).toList := by decide
  exact h n (by omega)

theorem suffix_inj (hm : m ≤ 4) (hn : n ≤ 4) (h : suffix m = suffix n) : m = n := by
  have hinj : ∀ m < 5, ∀ n < 5, suffix m = suffix n → m = n := by decide
  exact hinj m (by omega) n (by omega) h

theorem isName_suffix (hname : Path.IsName name) (hn : n ≤ 4) :
    Path.IsName (name ++ suffix n) := by
  obtain ⟨hne, hslash, hdot, hup⟩ := hname
  have hplain : '/' ∉ (name ++ suffix n).toList := by
    rw [String.toList_append, List.mem_append, not_or]
    exact ⟨hslash, (suffix_clean hn).1⟩
  cases n with
  | zero =>
    rw [suffix, String.append_empty]
    exact ⟨hne, hslash, hdot, hup⟩
  | succ n =>
    have hsize : 3 ≤ (name ++ suffix (n + 1)).utf8ByteSize := by
      have hpos : name.utf8ByteSize ≠ 0 := fun h => hne (String.utf8ByteSize_eq_zero_iff.1 h)
      rw [String.utf8ByteSize_append, suffix_size (by omega) hn]
      omega
    refine ⟨fun h => ?_, hplain, fun h => ?_, fun h => ?_⟩ <;>
    · rw [h] at hsize
      exact absurd hsize (by decide)

theorem place_join (hname : Path.IsName name) (hn : n ≤ 4) :
    place (Path.join dir name) n = Path.join dir (name ++ suffix n) := by
  apply String.toList_inj.1
  rw [place_eq, String.toList_append, Path.toList_join dir hname.relative,
    Path.toList_join dir (isName_suffix hname hn).relative, String.toList_append, List.append_assoc]

/-- **Where a place leads**: to a name in the directory of the log, if it is not too long. -/
theorem locate_place_iff {base l : Location} (hname : Path.IsName name) (hn : n ≤ 4)
    (hlog : t.locate (Path.join dir name) = .ok (base ++ [name])) :
    t.locate (place (Path.join dir name) n) = .ok l ↔
      ((Path.join dir name).utf8ByteSize + (suffix n).utf8ByteSize < pathLimit ∧
        name.utf8ByteSize + (suffix n).utf8ByteSize ≤ nameLimit) ∧
      l = base ++ [name ++ suffix n] := by
  obtain ⟨⟨hnul, -, -⟩, base', hbase, hdirectory, hl⟩ := (locate_join_iff hname).1 hlog
  obtain ⟨rfl, -⟩ := List.append_inj' hl rfl
  have hclean : '\x00' ∉ (Path.join dir (name ++ suffix n)).toList := by
    rw [← place_join hname hn, place_eq, String.toList_append, List.mem_append, not_or]
    exact ⟨hnul, (suffix_clean hn).2⟩
  have hsize : (Path.join dir (name ++ suffix n)).utf8ByteSize =
      (Path.join dir name).utf8ByteSize + (suffix n).utf8ByteSize := by
    rw [← place_join hname hn, place_eq, String.utf8ByteSize_append]
  rw [place_join hname hn, locate_join_iff (isName_suffix hname hn), hsize,
    String.utf8ByteSize_append, origin_join_eq (isName_suffix hname hn).relative hname.relative,
    hbase]
  constructor
  · rintro ⟨⟨-, hpath, hshort⟩, _, ⟨rfl⟩, -, hl⟩
    exact ⟨⟨hpath, hshort⟩, hl⟩
  · rintro ⟨⟨hpath, hshort⟩, hl⟩
    exact ⟨⟨hclean, hpath, hshort⟩, base, rfl, hdirectory, hl⟩

/-- Where one log that is put aside has a place, all have one. -/
theorem locate_place_of_place {base l : Location} (hname : Path.IsName name)
    (hlog : t.locate (Path.join dir name) = .ok (base ++ [name])) (hm : 1 ≤ m) (hm' : m ≤ 4)
    (h : t.locate (place (Path.join dir name) m) = .ok l) (hn : n ≤ 4) :
    t.locate (place (Path.join dir name) n) = .ok (base ++ [name ++ suffix n]) := by
  obtain ⟨⟨hpath, hshort⟩, -⟩ := (locate_place_iff hname hm' hlog).1 h
  rw [suffix_size hm hm'] at hpath hshort
  refine (locate_place_iff hname hn hlog).2 ⟨?_, rfl⟩
  by_cases hzero : n = 0
  · subst hzero
    rw [suffix, String.utf8ByteSize_empty]
    omega
  · rw [suffix_size (by omega) hn]
    exact ⟨hpath, hshort⟩

/-! ### Shelves -/

/-- The places of the log lead to different locations in a directory.  The logs that are put aside
have no place if their names are too long. -/
structure Shelf (t : FileTree) (log : String) (spot : Nat → Location) : Prop where
  regular : t.IsRegular
  home : ∀ p, Path.parent? log = some p → p = "" ∨ t.isDirectory p = true
  bare : log.toList.getLast? ≠ some '/'
  spot_inj : ∀ {m n}, m ≤ 4 → n ≤ 4 → spot m = spot n → m = n
  parent : ∀ n ≤ 4, t.entry? (spot n).dropLast = some .directory
  plain : ∀ n ≤ 4, ∀ l, t.locate (place log n) = .ok l → t.entry? l ≠ some .directory
  locate_log : t.locate log = .ok (spot 0)
  eq_spot : ∀ n ≤ 4, ∀ l, t.locate (place log n) = .ok l → l = spot n
  alike : ∀ m, 1 ≤ m → m ≤ 4 → ∀ l, t.locate (place log m) = .ok l →
    ∀ n ≤ 4, t.locate (place log n) = .ok (spot n)

/-- All places lead somewhere. -/
def HasRoom (t : FileTree) (log : String) (spot : Nat → Location) : Prop :=
  ∀ n ≤ 4, t.locate (place log n) = .ok (spot n)

theorem HasRoom.of_sameDirectories (room : HasRoom t log spot) (same : t.SameDirectories t') :
    HasRoom t' log spot := fun n hn => same.locate_of_locate (room n hn)

/-- **A log that can be written has places**, if nothing stands at any of them. -/
theorem exists_shelf {l : Location} (regular : t.IsRegular)
    (home : ∀ p, Path.parent? log = some p → p = "" ∨ t.isDirectory p = true)
    (htarget : t.target log = .ok l) (absent : ∀ n ≤ 4, t.exists? (place log n) = false) :
    ∃ spot, Shelf t log spot := by
  obtain ⟨bare, hlocate, -, -⟩ := target_eq_ok.1 htarget
  obtain ⟨dir, name, rfl, hname⟩ := exists_name_of_target regular htarget
  obtain ⟨-, base, -, hdirectory, rfl⟩ := (locate_join_iff hname).1 hlocate
  refine ⟨fun n => base ++ [name ++ suffix n], regular, home, bare, ?_, ?_, ?_, ?_, ?_,
    fun m hm hm' l hl n hn => locate_place_of_place hname hlocate hm hm' hl hn⟩
  · intro m n hm hn h
    have hlast : [name ++ suffix m] = [name ++ suffix n] := (List.append_inj' h rfl).2
    refine suffix_inj hm hn (String.toList_inj.1 ?_)
    have := congrArg String.toList (List.singleton_inj.1 hlast)
    rw [String.toList_append, String.toList_append] at this
    exact List.append_cancel_left this
  · intro n hn
    rw [List.dropLast_concat]
    exact hdirectory
  · intro n hn l hl hplace
    have hthere : t.exists? (place (Path.join dir name) n) = true :=
      exists?_iff.2 ⟨l, _, find_eq_ok.2 ⟨hl, hplace⟩⟩
    rw [absent n hn] at hthere
    cases hthere
  · rw [hlocate, suffix, String.append_empty]
  · intro n hn l hl
    exact ((locate_place_iff hname hn hlocate).1 hl).2

namespace Shelf

/-- A shelf stays one as long as no directory comes or goes. -/
theorem of_sameDirectories (shelf : Shelf t log spot) (same : t.SameDirectories t')
    (regular : t'.IsRegular) : Shelf t' log spot where
  regular := regular
  home p hp := (shelf.home p hp).imp_right fun h => (same.isDirectory_eq p).trans h
  bare := shelf.bare
  spot_inj := shelf.spot_inj
  parent n hn := (same.directory_iff _).2 (shelf.parent n hn)
  plain n hn l hl := mt (same.directory_iff l).1 (shelf.plain n hn l (same.locate_iff.1 hl))
  locate_log := same.locate_of_locate shelf.locate_log
  eq_spot n hn l hl := shelf.eq_spot n hn l (same.locate_iff.1 hl)
  alike m hm hm' l hl n hn :=
    same.locate_of_locate (shelf.alike m hm hm' l (same.locate_iff.1 hl) n hn)

/-- The directory of the log is there already. -/
theorem housed_eq (shelf : Shelf t log spot) {p : String} (hp : Path.parent? log = some p) :
    t.createDirectories p = .ok t := by
  rcases Path.parent?_cases hp with hidle | ⟨hne, bare, -⟩
  · exact createUpTo_eq_ok hidle _
  · exact createDirectories_of_isDirectory bare ((shelf.home p hp).resolve_left hne)

theorem exists?_place (shelf : Shelf t log spot) (hn : n ≤ 4) :
    t.exists? (place log n) = (t.slot? (place log n)).isSome :=
  exists?_eq_isSome (shelf.plain n hn)

/-! ### Moving one log on -/

/-- **A log is moved to a place that is free**, if it is there. -/
theorem moveOn (shelf : Shelf t log spot) (room : HasRoom t log spot) (hm : m ≤ 4) (hn : n ≤ 4)
    (hne : m ≠ n) (free : t.entry? (spot n) = none) :
    ∃ t', (if t.exists? (place log m) then t.rename (place log m) (place log n) else pure t) =
        .ok t' ∧ t'.IsRegular ∧ t.SameDirectories t' ∧
      t'.entry? (spot n) = t.entry? (spot m) ∧ t'.entry? (spot m) = none ∧
      ∀ k ≤ 4, k ≠ m → k ≠ n → t'.entry? (spot k) = t.entry? (spot k) := by
  have hapart : spot m ≠ spot n := fun h => hne (shelf.spot_inj hm hn h)
  have hslot := slot?_of_locate (room m hm) (shelf.plain m hm _ (room m hm))
  cases hcontent : t.slot? (place log m) with
  | none =>
    rw [hcontent, Option.map_none] at hslot
    rw [shelf.exists?_place hm, hcontent]
    exact ⟨t, rfl, shelf.regular, .refl t, free.trans hslot, hslot.symm, fun _ _ _ _ => rfl⟩
  | some content =>
    rw [hcontent, Option.map_some] at hslot
    rw [shelf.exists?_place hm, hcontent, Option.isSome_some, if_pos rfl]
    obtain ⟨t', hrename⟩ := rename_of_file (room m hm) hslot.symm (room n hn) (shelf.parent n hn)
      (by rw [free]; simp)
    have moved : t.Moved t' (spot m) (spot n) :=
      moved_of_rename shelf.regular hrename (room m hm) (room n hn)
        (shelf.plain m hm _ (room m hm)) hapart
    refine ⟨t', hrename, moved.isRegular shelf.regular, moved.sameDirectories, ?_, ?_, ?_⟩
    · rw [moved.entries, if_pos rfl]
    · rw [moved.entries, if_neg hapart, if_pos rfl]
    · intro k hk hkm hkn
      rw [moved.entries, if_neg fun h => hkn (shelf.spot_inj hk hn h),
        if_neg fun h => hkm (shelf.spot_inj hk hm h)]

/-- **The logs `1`, …, `n` are moved one place on** if the place after them is free; then the first
place is. -/
theorem shift_eq_ok (shelf : Shelf t log spot) (room : HasRoom t log spot) (hn : n ≤ 3)
    (free : t.entry? (spot (n + 1)) = none) :
    ∃ t', shift log n t = .ok t' ∧ t'.IsRegular ∧ t.SameDirectories t' ∧
      t'.entry? (spot 1) = none ∧
      (∀ k, 1 ≤ k → k ≤ n → t'.entry? (spot (k + 1)) = t.entry? (spot k)) ∧
      ∀ k ≤ 4, k = 0 ∨ n + 1 < k → t'.entry? (spot k) = t.entry? (spot k) := by
  induction n generalizing t with
  | zero =>
    exact ⟨t, rfl, shelf.regular, .refl t, free, fun k hk hk' => absurd hk (by omega),
      fun _ _ _ => rfl⟩
  | succ n ih =>
    obtain ⟨u, hmove, hregular, hsame, hon, hfree, hothers⟩ :=
      shelf.moveOn room (m := n + 1) (n := n + 2) (by omega) (by omega) (by omega) free
    have hroom := room.of_sameDirectories hsame
    obtain ⟨t', hshift, hregular', hsame', hfirst, hmoved, hkept⟩ :=
      ih (shelf.of_sameDirectories hsame hregular) hroom (by omega) hfree
    refine ⟨t', ?_, hregular', hsame.trans hsame', hfirst, fun k hk hk' => ?_, fun k hk hk' => ?_⟩
    · rw [shift_succ]
      exact bind_eq_ok.2 ⟨u, hmove, hshift⟩
    · by_cases hlast : k = n + 1
      · rw [hlast, hkept (n + 2) (by omega) (.inr (by omega)), hon]
      · rw [hmoved k hk (by omega), hothers k (by omega) (by omega) (by omega)]
    · rw [hkept k hk (by omega), hothers k hk (by omega) (by omega)]

/-! ### Putting the log aside -/

/-- A log can be put aside only if there is room. -/
theorem hasRoom_of_rotate (shelf : Shelf t log spot) (h : rotate t log = .ok t') :
    HasRoom t log spot := by
  by_cases hroom : ∃ m l, (1 ≤ m ∧ m ≤ 4) ∧ t.locate (place log m) = .ok l
  · obtain ⟨m, l, ⟨hm, hm'⟩, hl⟩ := hroom
    exact shelf.alike m hm hm' l hl
  · -- No place but the first leads anywhere, so that nothing is there and nothing gets there.
    have hgone : ∀ m, m + 1 ≤ 4 → t.exists? (place log (m + 1)) = false := by
      intro m hm
      rw [Bool.eq_false_iff]
      intro hthere
      obtain ⟨l, e, hfind⟩ := exists?_iff.1 hthere
      exact hroom ⟨m + 1, l, ⟨by omega, hm⟩, (find_eq_ok.1 hfind).1⟩
    have hstays : ∀ m, m + 1 ≤ 4 → shift log (m + 1) t = shift log m t := by
      intro m hm
      rw [shift_succ, hgone m hm]
      rfl
    have hshift : shift log 2 t = .ok t := by
      rw [hstays 1 (by omega), hstays 0 (by omega)]
      rfl
    have hrename : t.rename log (place log 1) = .ok t' := by
      rw [rotate_eq, hgone 2 (by omega)] at h
      obtain ⟨v, hv, hrename⟩ := bind_eq_ok.1 (show shift log 2 t >>= _ = .ok t' from h)
      cases hshift.symm.trans hv
      exact hrename
    rw [rename, bind_eq_ok] at hrename
    obtain ⟨found, -, hrename⟩ := hrename
    obtain ⟨l, hl, -⟩ := bind_eq_ok.1 hrename
    exact absurd ⟨1, l, ⟨by omega, by omega⟩, hl⟩ hroom

/-- The logs are one place further, and the log has made room. -/
structure RotatedTo (t t' : FileTree) (spot : Nat → Location) : Prop where
  regular : t'.IsRegular
  same : t.SameDirectories t'
  first : t'.entry? (spot 0) = none
  next : ∀ n ≤ 2, t'.entry? (spot (n + 1)) = t.entry? (spot n)
  last : t'.entry? (spot 4) = t.entry? (spot 4)

/-- The oldest log is given up, if it is there. -/
theorem exists_giveUp (shelf : Shelf t log spot) (room : HasRoom t log spot) : ∃ u,
    (if t.exists? (place log 3) then t.remove (place log 3) else pure t) = .ok u ∧
      u.IsRegular ∧ t.SameDirectories u ∧ u.entry? (spot 3) = none ∧
      ∀ k ≤ 4, k ≠ 3 → u.entry? (spot k) = t.entry? (spot k) := by
  have hslot := slot?_of_locate (room 3 (by omega))
    (shelf.plain 3 (by omega) _ (room 3 (by omega)))
  rw [shelf.exists?_place (by omega)]
  cases hold : t.slot? (place log 3) with
  | none =>
    rw [hold, Option.map_none] at hslot
    exact ⟨t, rfl, shelf.regular, .refl t, hslot.symm, fun _ _ _ => rfl⟩
  | some old =>
    obtain ⟨u, hremove⟩ := remove_of_readBytes (toOption_eq_some.1 hold)
    obtain ⟨l, hl, same, hnone⟩ := sameBut_of_remove hremove
    obtain rfl := shelf.eq_spot 3 (by omega) l hl
    refine ⟨u, hremove, shelf.regular.remove hremove, same.sameDirectories, hnone, ?_⟩
    intro k hk hne
    exact same.elsewhere _ fun h => hne (shelf.spot_inj hk (by omega) h)

/-- **A log can be put aside if there is room**; every log is then one place further, and the oldest
one is given up. -/
theorem exists_rotate (shelf : Shelf t log spot) (room : HasRoom t log spot)
    (hlog : t.slot? log = some content) :
    ∃ t', rotate t log = .ok t' ∧ RotatedTo t t' spot := by
  obtain ⟨u, hremove, hregular, hsame, hfree, hothers⟩ := shelf.exists_giveUp room
  have shelf' := shelf.of_sameDirectories hsame hregular
  have room' := room.of_sameDirectories hsame
  obtain ⟨v, hshift, hregular', hsame', hfree', hmoved, hkept⟩ :=
    shelf'.shift_eq_ok room' (n := 2) (by omega) hfree
  have shelf'' := shelf'.of_sameDirectories hsame' hregular'
  have room'' := room'.of_sameDirectories hsame'
  -- The log has not been moved yet.
  have hthere : v.exists? log = true := by
    obtain ⟨l, hl, hentry⟩ := slot?_eq_some.1 hlog
    obtain rfl := shelf.eq_spot 0 (by omega) l hl
    refine exists?_iff.2 ⟨spot 0, .file content, find_eq_ok.2 ⟨room'' 0 (by omega), ?_⟩⟩
    rw [hkept 0 (by omega) (.inl rfl), hothers 0 (by omega) (by omega), hentry]
  obtain ⟨t', hmove, hregular'', hsame'', hon, hfirst, hrest⟩ :=
    shelf''.moveOn room'' (m := 0) (n := 1) (by omega) (by omega) (by omega) hfree'
  refine ⟨t', ?_, hregular'', hsame.trans (hsame'.trans hsame''), hfirst, fun n hn => ?_, ?_⟩
  · rw [place, if_pos hthere] at hmove
    rw [rotate_eq]
    exact bind_eq_ok.2 ⟨u, hremove, bind_eq_ok.2 ⟨v, hshift, hmove⟩⟩
  · cases n with
    | zero => rw [hon, hkept 0 (by omega) (.inl rfl), hothers 0 (by omega) (by omega)]
    | succ n =>
      rw [hrest (n + 2) (by omega) (by omega) (by omega), hmoved (n + 1) (by omega) hn,
        hothers (n + 1) (by omega) (by omega)]
  · rw [hrest 4 (by omega) (by omega) (by omega), hkept 4 (by omega) (.inr (by omega)),
      hothers 4 (by omega) (by omega)]

/-- **Every log is one place further when the log is put aside**, and the oldest one is given up. -/
theorem rotate_moves (shelf : Shelf t log spot) (hlog : t.slot? log = some content)
    (h : rotate t log = .ok t') :
    Shelf t' log spot ∧ t'.slot? log = none ∧
      (∀ n ≤ 2, t'.slot? (place log (n + 1)) = t.slot? (place log n)) ∧
      t'.slot? (place log 4) = t.slot? (place log 4) := by
  have room := shelf.hasRoom_of_rotate h
  obtain ⟨u, hrotate, rotated⟩ := shelf.exists_rotate room hlog
  cases h.symm.trans hrotate
  have shelf' := shelf.of_sameDirectories rotated.same rotated.regular
  have hplace : ∀ m ≤ 4, ∀ n ≤ 4, t'.entry? (spot n) = t.entry? (spot m) →
      t'.slot? (place log n) = t.slot? (place log m) := fun m hm n hn heq =>
    slot?_eq_of_entry? (room m hm) (shelf.plain m hm _ (room m hm))
      (rotated.same.locate_of_locate (room n hn)) heq
  refine ⟨shelf', ?_, fun n hn => ?_, hplace 4 (by omega) 4 (by omega) rotated.last⟩
  · have hslot := slot?_of_locate shelf'.locate_log (shelf'.plain 0 (by omega) _ shelf'.locate_log)
    rw [rotated.first] at hslot
    exact Option.map_eq_none_iff.1 hslot
  · exact hplace n (by omega) (n + 1) (by omega) (rotated.next n hn)

/-! ### Adding an entry -/

/-- **An entry is added to the log and to no other.** -/
theorem append_adds (shelf : Shelf t log spot) (entry : Bytes) :
    ∃ t', t.append log entry = .ok t' ∧ Shelf t' log spot ∧ t.SameDirectories t' ∧
      t'.slot? log = some ((t.slot? log).getD [] ++ entry) ∧
      ∀ n, 1 ≤ n → n ≤ 4 → t'.slot? (place log n) = t.slot? (place log n) := by
  have hplain := shelf.plain 0 (by omega) _ shelf.locate_log
  have htarget : t.target log = .ok (spot 0) :=
    target_eq_ok.2 ⟨shelf.bare, shelf.locate_log, shelf.parent 0 (by omega), hplain⟩
  have hslot := slot?_of_locate shelf.locate_log hplain
  have happend : t.append log entry =
      .ok (t.put (spot 0) (.file ((t.slot? log).getD [] ++ entry))) := by
    rw [FileTree.append, htarget]
    simp only [bind, Except.bind]
    rw [← hslot]
    cases t.slot? log <;> rfl
  have hput := fun k =>
    t.entry?_put (e := .file ((t.slot? log).getD [] ++ entry)) (ne_root hplain) k
  have hself : entry? (t.put (spot 0) (.file ((t.slot? log).getD [] ++ entry))) (spot 0) =
      some (.file ((t.slot? log).getD [] ++ entry)) := by rw [hput, if_pos rfl]
  have same : t.SameBut (t.put (spot 0) (.file ((t.slot? log).getD [] ++ entry))) (spot 0) :=
    ⟨rfl, fun k hk => by rw [hput, if_neg hk], hplain, by rw [hself]; simp⟩
  have hregular := shelf.regular.of_sameBut same fun _ => shelf.parent 0 (by omega)
  refine ⟨_, happend, shelf.of_sameDirectories same.sameDirectories hregular,
    same.sameDirectories, ?_, ?_⟩
  · exact slot?_eq_some.2 ⟨spot 0, same.locate_iff.2 shelf.locate_log, hself⟩
  · intro n hn hn'
    refine same.slot?_eq fun hl => ?_
    have := shelf.spot_inj (by omega) hn' (shelf.eq_spot n hn' _ hl)
    omega

end Shelf

end CrashLog

end SuiteRunner
