import SuiteRunner.Proofs.LogPlaces

/-!
# What is kept of a log

Entries are added to a log, which is put aside before it would get too long.  Every file then holds
entries one after the other, and the files together hold the last entries that were written, without
a gap and without an entry in two files.

* `CrashLog.History`, what calls have left behind, with `CrashLog.History.calls`;
* `CrashLog.Fresh`, files without the log, with `CrashLog.fresh_path` for the log of a directory;
* `CrashLog.Filed`, the entries that are in each file, and those that are lost;
* `CrashLog.Filed.putAside` and `CrashLog.Filed.add`, the two parts of a call;
* **`CrashLog.calls_keep_entries`** — what is kept after any number of calls.
-/

namespace SuiteRunner

namespace CrashLog

open FileTree

variable {t t' files made : FileTree} {log : String} {spot : Nat → Location} {n : Nat}
  {entry : Bytes} {entries lost : List Bytes} {groups : Nat → List Bytes}

/-! ### The parts of a call -/

/-- The files once the directory of the log is there. -/
def housed (files : FileTree) (log : String) : Except FileFault FileTree :=
  match Path.parent? log with
  | some parent => files.createDirectories parent
  | none => pure files

/-- Holds when the log is put aside before the entry is added. -/
def isFull (files : FileTree) (log : String) (entry : Bytes) : Bool :=
  let size := (files.size? log).getD 0
  0 < size && sizeLimit < size + entry.length

/-- How many times the log is put aside before the entry is added. -/
def turns (files : FileTree) (log : String) (entry : Bytes) : Nat :=
  match housed files log with
  | .ok made => if isFull made log entry then 1 else 0
  | .error _ => 0

theorem append_eq (files : FileTree) (log : String) (entry : Bytes) :
    append files log entry = housed files log >>= fun made =>
      (if isFull made log entry then rotate made log else pure made) >>= fun made =>
        made.append log entry := by
  have hstep : ∀ made : FileTree,
      (do
        let made ← if isFull made log entry then rotate made log else pure made
        made.append log entry) =
      (if isFull made log entry then rotate made log else pure made) >>= fun made =>
        made.append log entry := by
    intro made
    split <;> rfl
  rw [← funext hstep, append, housed]
  cases Path.parent? log <;> rfl

/-- What calls have left behind: the files, the entries that were written, and how many times the
log was put aside. -/
structure History where
  files : FileTree
  written : List Bytes
  rotations : Nat

/-- The history before the first call. -/
def History.start (files : FileTree) : History := ⟨files, [], 0⟩

/-- The history after a call; a call that fails writes nothing. -/
def History.call (log : String) (h : History) (entry : Bytes) : History :=
  match append h.files log entry with
  | .ok files => ⟨files, h.written ++ [entry], h.rotations + turns h.files log entry⟩
  | .error _ => h

/-- The history after calls. -/
def History.calls (log : String) (h : History) (entries : List Bytes) : History :=
  entries.foldl (History.call log) h

/-- Nothing stands at the places of the log, also not once the directory of the log is there. -/
structure Fresh (files : FileTree) (log : String) : Prop where
  absent : ∀ n ≤ keptAside + 1, files.exists? (place log n) = false
  housed : ∀ made, housed files log = .ok made →
    ∀ n ≤ keptAside + 1, made.exists? (place log n) = false

/-- The log can be written and put aside once its directory is there. -/
def CanWrite (files : FileTree) (log : String) : Prop :=
  ∃ made l l', housed files log = .ok made ∧ made.target log = .ok l ∧
    made.locate (place log 1) = .ok l'

/-! ### What the files hold -/

/-- What is read at a place of the log; a file that is absent holds nothing. -/
def content (t : FileTree) (log : String) (n : Nat) : Bytes := (t.slot? (place log n)).getD []

theorem exists_slot? (h : content t log 0 ≠ []) : ∃ old, t.slot? log = some old := by
  cases hslot : t.slot? log with
  | none =>
    rw [content, place, hslot] at h
    exact absurd rfl h
  | some old => exact ⟨old, rfl⟩

/-- Every file holds the entries of a group, one after the other, and the groups are the last
entries that were written. -/
structure Filed (h : History) (log : String) (lost : List Bytes) (groups : Nat → List Bytes) :
    Prop where
  content_eq : ∀ n ≤ keptAside, content h.files log n = (groups n).flatten
  written_eq : h.written = lost ++ (groups 3 ++ groups 2 ++ groups 1 ++ groups 0)
  lost_eq_nil : h.rotations ≤ keptAside → lost = []
  group_eq_nil : ∀ n ≤ keptAside, h.rotations < n → groups n = []
  large : ∀ n ≤ keptAside, sizeLimit < (content h.files log n).length →
    ∃ entry, (groups n).filter (· ≠ []) = [entry]
  noMore : h.files.exists? (aside log (keptAside + 1)) = false

/-- **Together the files hold the last entries that were written.** -/
theorem Filed.contents_eq {h : History} (filed : Filed h log lost groups) :
    content h.files log 3 ++ content h.files log 2 ++ content h.files log 1 ++
      content h.files log 0 = (h.written.drop lost.length).flatten := by
  rw [filed.content_eq 3 (by decide), filed.content_eq 2 (by decide),
    filed.content_eq 1 (by decide), filed.content_eq 0 (by decide), filed.written_eq,
    List.drop_left]
  simp only [List.flatten_append]

/-- The groups after the log was put aside. -/
def onward (groups : Nat → List Bytes) : Nat → List Bytes
  | 0 => []
  | n + 1 => groups n

/-- The groups after an entry was added. -/
def withEntry (groups : Nat → List Bytes) (entry : Bytes) : Nat → List Bytes
  | 0 => groups 0 ++ [entry]
  | n + 1 => groups (n + 1)

/-- An entry that is added to empty ones is the only one that is not empty. -/
theorem filter_withEntry (hempty : (groups 0).flatten = []) (hentry : entry ≠ []) :
    (withEntry groups entry 0).filter (· ≠ []) = [entry] := by
  have hgroup : (groups 0).filter (· ≠ []) = [] := by
    rw [List.flatten_eq_nil_iff] at hempty
    rw [List.filter_eq_nil_iff]
    intro e he
    simpa using hempty e he
  rw [withEntry, List.filter_append, hgroup, List.nil_append,
    List.filter_cons_of_pos (by simpa using hentry), List.filter_nil]

namespace Filed

variable {h : History}

theorem start (absent : ∀ n ≤ keptAside + 1, files.exists? (place log n) = false) :
    Filed (.start files) log [] fun _ => [] := by
  have hnone : ∀ n ≤ keptAside, content files log n = [] := by
    intro n hn
    have habsent := absent n (by omega)
    rw [content]
    cases hslot : files.slot? (place log n) with
    | none => rfl
    | some content =>
      obtain ⟨l, hl, hentry⟩ := slot?_eq_some.1 hslot
      rw [exists?_iff.2 ⟨l, _, find_eq_ok.2 ⟨hl, hentry⟩⟩] at habsent
      cases habsent
  refine ⟨hnone, rfl, fun _ => rfl, fun _ _ _ => rfl, fun n hn hlarge => ?_,
    absent (keptAside + 1) (Nat.le_refl _)⟩
  rw [show content (History.start files).files log n = [] from hnone n hn] at hlarge
  cases hlarge

/-- **Putting the log aside gives up the oldest group.** -/
theorem putAside (filed : Filed h log lost groups) (shelf : Shelf h.files log spot)
    (hlog : content h.files log 0 ≠ []) (hrotate : rotate h.files log = .ok t') :
    Shelf t' log spot ∧ content t' log 0 = [] ∧
      Filed ⟨t', h.written, h.rotations + 1⟩ log (lost ++ groups 3) (onward groups) := by
  obtain ⟨old, hold⟩ := exists_slot? hlog
  obtain ⟨shelf', hfirst, hnext, hlast⟩ := shelf.rotate_moves hold hrotate
  have hempty : content t' log 0 = [] := by rw [content, place, hfirst, Option.getD_none]
  have hcontent : ∀ n ≤ 2, content t' log (n + 1) = content h.files log n := by
    intro n hn
    rw [content, content, hnext n hn]
  refine ⟨shelf', hempty, ⟨fun n hn => ?_, ?_, fun hfew => ?_, fun n hn hfew => ?_,
    fun n hn hlarge => ?_, ?_⟩⟩
  · cases n with
    | zero => exact hempty
    | succ n =>
      rw [hcontent n (by simp only [keptAside] at hn; omega), filed.content_eq n (by omega), onward]
  · rw [filed.written_eq]
    simp [onward]
  · have hrotations : h.rotations + 1 ≤ 3 := hfew
    rw [filed.lost_eq_nil (show h.rotations ≤ 3 by omega),
      filed.group_eq_nil 3 (by decide) (by omega), List.append_nil]
  · cases n with
    | zero => rfl
    | succ n => exact filed.group_eq_nil n (by omega) (by simp only at hfew; omega)
  · cases n with
    | zero =>
      rw [show content _ log 0 = [] from hempty] at hlarge
      cases hlarge
    | succ n =>
      have hn' : n ≤ 2 := by simp only [keptAside] at hn; omega
      rw [show content _ log (n + 1) = _ from hcontent n hn'] at hlarge
      exact filed.large n (by omega) hlarge
  · have hnoMore := filed.noMore
    have hplace := shelf'.exists?_place (n := 4) (by omega)
    rw [hlast, ← shelf.exists?_place (by omega)] at hplace
    exact hplace.trans hnoMore

/-- **An entry that fits is added to the group of the log.** -/
theorem add (filed : Filed h log lost groups) (shelf : Shelf h.files log spot)
    (fits : content h.files log 0 = [] ∨
      (content h.files log 0).length + entry.length ≤ sizeLimit)
    (happend : h.files.append log entry = .ok t') :
    Shelf t' log spot ∧
      Filed ⟨t', h.written ++ [entry], h.rotations⟩ log lost (withEntry groups entry) := by
  obtain ⟨u, hu, shelf', -, hlog, hothers⟩ := shelf.append_adds entry
  cases happend.symm.trans hu
  have hzero : content t' log 0 = content h.files log 0 ++ entry := by
    rw [content, place, hlog, Option.getD_some]
    rfl
  have hcontent : ∀ n, n + 1 ≤ 4 → content t' log (n + 1) = content h.files log (n + 1) := by
    intro n hn
    rw [content, content, hothers (n + 1) (by omega) hn]
  refine ⟨shelf', ⟨fun n hn => ?_, ?_, filed.lost_eq_nil, fun n hn hfew => ?_,
    fun n hn hlarge => ?_, ?_⟩⟩
  · cases n with
    | zero =>
      rw [withEntry, List.flatten_append, ← filed.content_eq 0 (by omega)]
      simpa using hzero
    | succ n =>
      rw [hcontent n (by simp only [keptAside] at hn; omega), filed.content_eq _ hn, withEntry]
  · rw [filed.written_eq]
    simp [withEntry]
  · cases n with
    | zero => cases hfew
    | succ n => exact filed.group_eq_nil (n + 1) hn hfew
  · cases n with
    | zero =>
      rw [show content _ log 0 = _ from hzero, List.length_append] at hlarge
      have hold : content h.files log 0 = [] := by
        refine fits.resolve_right fun hle => ?_
        omega
      rw [hold, List.length_nil, Nat.zero_add] at hlarge
      have hentry : entry ≠ [] := by
        rintro rfl
        cases hlarge
      exact ⟨entry, filter_withEntry (filed.content_eq 0 (by omega) ▸ hold) hentry⟩
    | succ n =>
      have hunchanged := hcontent n (by simp only [keptAside] at hn; omega)
      rw [show content _ log (n + 1) = _ from hunchanged] at hlarge
      exact filed.large (n + 1) hn hlarge
  · have hnoMore := filed.noMore
    have hplace := shelf'.exists?_place (n := 4) (by omega)
    rw [hothers 4 (by omega) (by omega), ← shelf.exists?_place (by omega)] at hplace
    exact hplace.trans hnoMore

end Filed

/-! ### Calls -/

namespace Shelf

theorem housed_eq_ok (shelf : Shelf t log spot) : housed t log = .ok t := by
  rw [housed]
  cases hparent : Path.parent? log with
  | none => rfl
  | some parent => exact shelf.housed_eq hparent

theorem size?_getD (shelf : Shelf t log spot) :
    (t.size? log).getD 0 = (content t log 0).length := by
  have hsize : t.size? log = (t.slot? log).map List.length :=
    size?_eq_length (shelf.plain 0 (by omega))
  rw [hsize, content, place]
  cases t.slot? log <;> rfl

/-- The log is put aside if it holds something and would get too long. -/
theorem isFull_iff (shelf : Shelf t log spot) : isFull t log entry = true ↔
    content t log 0 ≠ [] ∧ sizeLimit < (content t log 0).length + entry.length := by
  rw [isFull, shelf.size?_getD, Bool.and_eq_true, decide_eq_true_eq, decide_eq_true_eq,
    List.length_pos_iff]

theorem append_eq (shelf : Shelf t log spot) (entry : Bytes) : append t log entry =
    (if isFull t log entry then rotate t log else pure t) >>= fun u => u.append log entry := by
  rw [CrashLog.append_eq, shelf.housed_eq_ok]
  rfl

theorem turns_eq (shelf : Shelf t log spot) :
    turns t log entry = if isFull t log entry then 1 else 0 := by
  rw [turns, shelf.housed_eq_ok]

/-- With room for the logs that are put aside, every entry is written. -/
theorem exists_append (shelf : Shelf t log spot) (room : HasRoom t log spot) (entry : Bytes) :
    ∃ t', append t log entry = .ok t' ∧ HasRoom t' log spot := by
  rw [shelf.append_eq]
  obtain ⟨u, hturn, shelf', room'⟩ : ∃ u,
      (if isFull t log entry then rotate t log else pure t) = .ok u ∧
        Shelf u log spot ∧ HasRoom u log spot := by
    by_cases hfull : isFull t log entry = true
    · obtain ⟨hlog, -⟩ := shelf.isFull_iff.1 hfull
      obtain ⟨old, hold⟩ := exists_slot? hlog
      obtain ⟨u, hrotate, rotated⟩ := shelf.exists_rotate room hold
      rw [if_pos hfull]
      exact ⟨u, hrotate, shelf.of_sameDirectories rotated.same rotated.regular,
        room.of_sameDirectories rotated.same⟩
    · rw [if_neg hfull]
      exact ⟨t, rfl, shelf, room⟩
  obtain ⟨t', happend, -, same, -⟩ := shelf'.append_adds entry
  exact ⟨t', bind_eq_ok.2 ⟨u, hturn, happend⟩, room'.of_sameDirectories same⟩

end Shelf

namespace Filed

variable {h : History}

/-- **A call files its entry**, and puts the log aside before it if the entry does not fit. -/
theorem call (filed : Filed h log lost groups) (shelf : Shelf h.files log spot)
    (happend : append h.files log entry = .ok t') : Shelf t' log spot ∧
      ∃ lost' groups', groups' 0 ≠ [] ∧
        Filed ⟨t', h.written ++ [entry], h.rotations + turns h.files log entry⟩ log
          lost' groups' := by
  have hadded : ∀ groups : Nat → List Bytes, withEntry groups entry 0 ≠ [] := fun groups => by
    simp [withEntry]
  rw [shelf.append_eq] at happend
  rw [shelf.turns_eq]
  by_cases hfull : isFull h.files log entry = true
  · rw [if_pos hfull] at happend ⊢
    obtain ⟨hlog, -⟩ := shelf.isFull_iff.1 hfull
    obtain ⟨u, hrotate, happend⟩ := bind_eq_ok.1 happend
    obtain ⟨shelf', hempty, filed'⟩ := filed.putAside shelf hlog hrotate
    obtain ⟨shelf'', filed''⟩ := filed'.add shelf' (.inl hempty) happend
    exact ⟨shelf'', _, _, hadded _, filed''⟩
  · rw [if_neg hfull] at happend ⊢
    have hfits : content h.files log 0 = [] ∨
        (content h.files log 0).length + entry.length ≤ sizeLimit := by
      by_contra hlarge
      rw [not_or, Nat.not_le] at hlarge
      exact hfull (shelf.isFull_iff.2 hlarge)
    obtain ⟨shelf', filed'⟩ := filed.add shelf hfits happend
    exact ⟨shelf', _, _, hadded _, filed'⟩

end Filed

/-! ### The first call -/

/-- Once its directory is there, a log that can be written has places. -/
theorem exists_shelf_of_housed {l : Location} (regular : files.IsRegular) (fresh : Fresh files log)
    (hmade : housed files log = .ok made) (htarget : made.target log = .ok l) :
    ∃ spot, Shelf made log spot := by
  have grown : files.Grown made := by
    rw [housed] at hmade
    split at hmade
    · exact grown_of_createDirectories hmade
    · cases hmade
      exact .refl _
  refine exists_shelf (grown.isRegular regular) (fun p hp => ?_) htarget (fresh.housed made hmade)
  rw [housed, hp] at hmade
  rcases Path.parent?_cases hp with (hidle | rfl) | ⟨hne, bare, -⟩
  · exact .inl hidle
  · exact .inr rfl
  · exact .inr (isDirectory_of_createDirectories bare hne hmade)

/-- Where nothing is, the log is not put aside. -/
theorem isFull_of_absent (absent : files.exists? log = false) (entry : Bytes) :
    isFull files log entry = false := by
  have hnone : files.size? log = none := by
    rw [size?]
    rw [exists?] at absent
    split at absent
    · cases absent
    · rename_i fault hfind
      rw [hfind]
  rw [isFull, hnone]
  rfl

/-- **The first entry is written where the directory of the log is there.** -/
theorem exists_shelf_of_append (regular : files.IsRegular) (fresh : Fresh files log)
    (happend : append files log entry = .ok t') :
    ∃ made spot, housed files log = .ok made ∧ Shelf made log spot := by
  rw [append_eq] at happend
  obtain ⟨made, hmade, happend⟩ := bind_eq_ok.1 happend
  have habsent : made.exists? log = false := fresh.housed made hmade 0 (by omega)
  rw [isFull_of_absent habsent] at happend
  have hadd : made.append log entry = .ok t' := happend
  rw [FileTree.append, bind_eq_ok] at hadd
  obtain ⟨l, htarget, -⟩ := hadd
  obtain ⟨spot, shelf⟩ := exists_shelf_of_housed regular fresh hmade htarget
  exact ⟨made, spot, hmade, shelf⟩

/-- A call does the same once the directory of the log is there. -/
theorem append_housed (hmade : housed files log = .ok made) (shelf : Shelf made log spot) :
    append files log entry = append made log entry ∧
      turns files log entry = turns made log entry := by
  rw [append_eq, append_eq, turns, turns, hmade, shelf.housed_eq_ok]
  exact ⟨rfl, rfl⟩

/-- **A log in a directory that does not lead up is fresh if nothing stands at its places**:
creating the directory brings no logs. -/
theorem fresh_path {files : FileTree} {outputDir : String} (regular : files.IsRegular)
    (noUp : Path.up ∉ Path.pieces outputDir)
    (absent : ∀ n ≤ keptAside + 1, files.exists? (place (path outputDir) n) = false) :
    Fresh files (path outputDir) := by
  refine ⟨absent, fun made hmade n hn => Bool.eq_false_iff.2 fun hthere => ?_⟩
  have hname : Path.IsName "crash.log" := by decide
  have hnames := isName_suffix hname hn
  have hplace : place (path outputDir) n = Path.join outputDir ("crash.log" ++ suffix n) :=
    place_join hname hn
  have hup : Path.up ∉ Path.pieces (place (path outputDir) n) := by
    rw [hplace, Path.pieces_join _ hnames.relative, List.mem_append, not_or]
    exact ⟨fun h => noUp (Path.mem_of_mem_lead h), hnames.up_notMem⟩
  have habsent := absent n hn
  rw [housed] at hmade
  split at hmade
  · rename_i parent hparent
    have grown := grown_of_createDirectories hmade
    rcases Path.parent?_cases hparent with hidle | ⟨hne, bare, rest, hrest⟩
    · rw [eq_of_createUpTo hidle hmade, habsent] at hthere
      cases hthere
    · -- The place has one name more than the directory above it.
      have hsplit : (place (path outputDir) n).toList =
          parent.toList ++ '/' :: (rest ++ (suffix n).toList) := by
        rw [place_eq, String.toList_append, hrest, List.append_assoc, List.cons_append]
      have hpos := List.length_pos_iff.2 (Path.names_ne_nil_of_split hnames (hplace ▸ hsplit))
      have hbefore := grown.exists?_of_exists? regular hup hthere fun l hl => by
        refine (createUpTo_above ?_ bare hmade l).resolve_right fun hle => ?_
        · have hlog : Path.up ∉ Path.pieces (path outputDir) := by
            rw [path, Path.pieces_join _ hname.relative, List.mem_append, not_or]
            exact ⟨fun h => noUp (Path.mem_of_mem_lead h), hname.up_notMem⟩
          exact Path.up_notMem_of_split hrest hlog
        · rw [eq_of_locate hup hl, origin, grown.working, Path.names_of_split hsplit,
            Path.isAbsolute_of_split hne hsplit, ← origin, List.length_append,
            List.length_append, List.length_append] at hle
          omega
      rw [habsent] at hbefore
      cases hbefore
  · cases hmade
    rw [habsent] at hthere
    cases hthere

/-! ### Any number of calls -/

/-- What holds between calls: nothing was written yet, or the log has its places. -/
def Between (files : FileTree) (log : String) (h : History) : Prop :=
  h = .start files ∨
    ∃ spot, Shelf h.files log spot ∧ (CanWrite files log → HasRoom h.files log spot)

/-- The files hold entries, and the log holds the last one. -/
def Keeps (h : History) (log : String) : Prop :=
  ∃ lost groups, Filed h log lost groups ∧ (h.written ≠ [] → groups 0 ≠ [])

theorem keeps_start (absent : ∀ n ≤ keptAside + 1, files.exists? (place log n) = false) :
    Keeps (.start files) log :=
  ⟨[], fun _ => [], .start absent, fun h => absurd rfl h⟩

/-- A call on a log that has its places. -/
theorem Shelf.call_keeps {h : History} (shelf : Shelf h.files log spot) (keeps : Keeps h log)
    (entry : Bytes) :
    Shelf (h.call log entry).files log spot ∧ Keeps (h.call log entry) log ∧
      (HasRoom h.files log spot → HasRoom (h.call log entry).files log spot ∧
        (h.call log entry).written = h.written ++ [entry]) := by
  obtain ⟨lost, groups, filed, hlast⟩ := keeps
  rw [History.call]
  cases happend : append h.files log entry with
  | error fault =>
    refine ⟨shelf, ⟨lost, groups, filed, hlast⟩, fun room => ?_⟩
    obtain ⟨t', ht', -⟩ := shelf.exists_append room entry
    rw [happend] at ht'
    cases ht'
  | ok t' =>
    obtain ⟨shelf', lost', groups', hadded, filed'⟩ := filed.call shelf happend
    refine ⟨shelf', ⟨lost', groups', filed', fun _ => hadded⟩, fun room => ⟨?_, rfl⟩⟩
    obtain ⟨u, hu, room'⟩ := shelf.exists_append room entry
    cases happend.symm.trans hu
    exact room'

/-- **A call keeps entries**, and writes its own if the log can be written. -/
theorem call_keeps {h : History} (regular : files.IsRegular) (fresh : Fresh files log)
    (between : Between files log h) (keeps : Keeps h log) (entry : Bytes) :
    Between files log (h.call log entry) ∧ Keeps (h.call log entry) log ∧
      (CanWrite files log → (h.call log entry).written = h.written ++ [entry]) := by
  rcases between with rfl | ⟨spot, shelf, hroom⟩
  · cases happend : append files log entry with
    | error fault =>
      have hstays : (History.start files).call log entry = .start files := by
        rw [History.call, show append (History.start files).files log entry = _ from happend]
      rw [hstays]
      refine ⟨.inl rfl, keeps, ?_⟩
      rintro ⟨made, l, l', hmade, htarget, haside⟩
      obtain ⟨spot, shelf⟩ := exists_shelf_of_housed regular fresh hmade htarget
      have room := shelf.alike 1 (by omega) (by omega) l' haside
      obtain ⟨t', ht', -⟩ := shelf.exists_append room entry
      rw [(append_housed hmade shelf).1, ht'] at happend
      cases happend
    | ok t' =>
      obtain ⟨made, spot, hmade, shelf⟩ := exists_shelf_of_append regular fresh happend
      have hsame : append files log entry = append made log entry ∧
          turns files log entry = turns made log entry := append_housed hmade shelf
      obtain ⟨heq, hturns⟩ := hsame
      have hcall : (History.start files).call log entry = (History.start made).call log entry := by
        rw [History.call, History.call]
        simp only [History.start]
        rw [← heq, happend, hturns]
      rw [hcall]
      obtain ⟨shelf', keeps', hwritten⟩ :=
        Shelf.call_keeps (h := .start made) shelf (keeps_start (fresh.housed made hmade)) entry
      have hroom : CanWrite files log → HasRoom made log spot := by
        rintro ⟨made', l, l', hmade', -, haside⟩
        cases hmade.symm.trans hmade'
        exact shelf.alike 1 (by omega) (by omega) l' haside
      exact ⟨.inr ⟨spot, shelf', fun can => (hwritten (hroom can)).1⟩, keeps',
        fun can => (hwritten (hroom can)).2⟩
  · obtain ⟨shelf', keeps', hwritten⟩ := shelf.call_keeps keeps entry
    exact ⟨.inr ⟨spot, shelf', fun can => (hwritten (hroom can)).1⟩, keeps',
      fun can => (hwritten (hroom can)).2⟩

/-- Any number of calls keeps entries. -/
theorem calls_keep {h : History} (regular : files.IsRegular) (fresh : Fresh files log)
    (between : Between files log h) (keeps : Keeps h log) (entries : List Bytes) :
    Keeps (h.calls log entries) log ∧
      (CanWrite files log → (h.calls log entries).written = h.written ++ entries) := by
  induction entries generalizing h with
  | nil => exact ⟨keeps, fun _ => (List.append_nil _).symm⟩
  | cons entry entries ih =>
    obtain ⟨between', keeps', hwritten⟩ := call_keeps regular fresh between keeps entry
    obtain ⟨keeps'', hrest⟩ := ih between' keeps'
    refine ⟨keeps'', fun can => ?_⟩
    rw [History.calls, List.foldl_cons, ← History.calls, hrest can, hwritten can,
      List.append_assoc, List.singleton_append]

/-- **What is kept of a log.**  On files without the log and without logs that were put aside, any
number of calls with any entries leaves the following.

* The file at each place holds the entries of a group one after the other, so that no entry is in
  two files, and the groups one after the other are the entries that were written but for some of
  the first ones, which are lost.
* The files together hold the entries from one of them on, up to the last.
* A file that is longer than the limit holds one entry that is not empty.
* No more than three logs are aside, and nothing is lost as long as the log was put aside at most
  three times.
* If the log can be written and put aside, every call writes its entry. -/
theorem calls_keep_entries (regular : files.IsRegular) (fresh : Fresh files log)
    (entries : List Bytes) :
    ∃ lost groups, Filed (History.calls log (.start files) entries) log lost groups ∧
      content (History.calls log (.start files) entries).files log 3 ++
          content (History.calls log (.start files) entries).files log 2 ++
          content (History.calls log (.start files) entries).files log 1 ++
          content (History.calls log (.start files) entries).files log 0 =
        ((History.calls log (.start files) entries).written.drop lost.length).flatten ∧
      ((History.calls log (.start files) entries).written ≠ [] → groups 0 ≠ []) ∧
      (CanWrite files log → (History.calls log (.start files) entries).written = entries) := by
  obtain ⟨⟨lost, groups, filed, hlast⟩, hwritten⟩ :=
    calls_keep regular fresh (.inl rfl) (keeps_start fresh.absent) entries
  exact ⟨lost, groups, filed, filed.contents_eq, hlast, hwritten⟩

/-- A directory without a log. -/
def outputAlone : FileTree := ⟨[(["out"], .directory)], []⟩

theorem canWrite_outputAlone : CanWrite outputAlone (path "out") :=
  ⟨outputAlone, ["out", "crash.log"], ["out", "crash.log.1"], by rfl, by rfl, by rfl⟩

/-- Two entries that fit into one log. -/
theorem twoEntries_kept : Fresh outputAlone (path "out") ∧
    ∃ lost groups, Filed (History.calls (path "out") (.start outputAlone) [[65], [66, 67]])
        (path "out") lost groups ∧ groups 0 ≠ [] ∧
      (History.calls (path "out") (.start outputAlone) [[65], [66, 67]]).written =
        [[65], [66, 67]] ∧
      content (History.calls (path "out") (.start outputAlone) [[65], [66, 67]]).files
        (path "out") 0 = [65, 66, 67] := by
  have fresh : Fresh outputAlone (path "out") :=
    fresh_path (.single _ _) (by decide) (by decide +kernel)
  obtain ⟨lost, groups, filed, -, hlast, hwritten⟩ :=
    calls_keep_entries (.single _ _) fresh [[65], [66, 67]]
  have written := hwritten canWrite_outputAlone
  exact ⟨fresh, lost, groups, filed, hlast (by rw [written]; simp), written, by decide +kernel⟩

end CrashLog

end SuiteRunner
