import Mathlib.Data.List.Induction
import SuiteRunner.FileTree

/-!
# Paths below a directory

A path is below a directory when it is the directory followed by names of which none leads up again.
This file relates the text of a path, its pieces, and the location to which they are followed.

* `Path.pieces_eq`, the pieces of a path as those of a list;
* `Path.front`, a directory with the slash that a name is put after, with `Path.toList_join`;
* `Path.Below`, which `Path.Below.join` carries from a directory to what is joined to it;
* `Location.IsProper`, the names of a location are names, with `Location.front_path`;
* **`FileTree.find_join`** — where a joined path is found, its directory is found, and the names of
  the rest are followed from there;
* **`FileTree.follow_eq_append`** — names that do not lead up are added to the location;
* `FileTree.locate_join_eq_append` — a name that is joined to a directory is the last one of it.
-/

namespace SuiteRunner

/-! ### Pieces of texts -/

namespace Text

/-- The pieces of a text are those of the list of its characters. -/
theorem splitOn_eq (sep : Char) (s : List Char) : splitOn sep s = s.splitOn sep := by
  induction s with
  | nil => rfl
  | cons c s ih =>
    rw [splitOn, List.splitOn_cons_eq_if_modifyHead, ih]
    by_cases h : c = sep
    · simp [h]
    · rw [if_neg h, if_neg (by simpa using h)]
      cases hs : s.splitOn sep with
      | nil => exact absurd hs (List.splitOn_ne_nil sep s)
      | cons p ps => rfl

/-- A piece does not have the separator in it. -/
theorem notMem_of_mem_splitOn {sep : Char} {s p : List Char} (h : p ∈ s.splitOn sep) :
    sep ∉ p := by
  induction s generalizing p with
  | nil =>
    rw [List.splitOn_nil, List.mem_singleton] at h
    simp [h]
  | cons c s ih =>
    rw [List.splitOn_cons_eq_if_modifyHead] at h
    by_cases hc : c = sep
    · rw [if_pos (by simpa using hc), List.mem_cons] at h
      rcases h with rfl | h
      · simp
      · exact ih h
    · rw [if_neg (by simpa using hc)] at h
      cases hs : s.splitOn sep with
      | nil => exact absurd hs (List.splitOn_ne_nil sep s)
      | cons q qs =>
        rw [hs] at h ih
        rcases List.mem_cons.1 h with rfl | h
        · rw [List.mem_cons, not_or]
          exact ⟨Ne.symm hc, ih List.mem_cons_self⟩
        · exact ih (List.mem_cons_of_mem _ h)

/-- Two lists of pieces that are put together one after the other. -/
theorem intercalate_append {sep : List Char} {ps qs : List (List Char)} (hps : ps ≠ [])
    (hqs : qs ≠ []) :
    sep.intercalate (ps ++ qs) = sep.intercalate ps ++ sep ++ sep.intercalate qs := by
  induction ps with
  | nil => exact absurd rfl hps
  | cons p ps ih =>
    cases ps with
    | nil => simp [List.intercalate_cons_of_ne_nil hqs]
    | cons r ps =>
      rw [show p :: r :: ps ++ qs = p :: r :: (ps ++ qs) from rfl, List.intercalate_cons_cons,
        List.intercalate_cons_cons, show r :: (ps ++ qs) = r :: ps ++ qs from rfl, ih (by simp)]
      simp only [List.append_assoc]

end Text

/-! ### Joined paths -/

namespace Path

/-- The name of the directory above. -/
def up : List Char := ['.', '.']

theorem pieces_eq (p : String) : pieces p = p.toList.splitOn '/' := Text.splitOn_eq '/' p.toList

/-- A directory with the slash after which a name is put; the empty path has none. -/
def front (dir : String) : List Char :=
  if dir.toList = [] ∨ dir.toList.getLast? = some '/' then dir.toList else dir.toList ++ ['/']

/-- The pieces of a directory that stand before those of what is joined to it. -/
def lead (dir : String) : List (List Char) :=
  if dir.toList = [] then []
  else if dir.toList.getLast? = some '/' then (pieces dir).dropLast
  else pieces dir

/-- A relative path is put after the directory and its slash. -/
theorem toList_join {p : String} (dir : String) (relative : isAbsolute p = false) :
    (join dir p).toList = front dir ++ p.toList := by
  rw [join, relative, if_neg Bool.false_ne_true, front]
  by_cases h : dir.toList = [] ∨ dir.toList.getLast? = some '/'
  · rw [if_pos h, if_pos (by simpa using h), String.toList_append]
  · rw [if_neg h, if_neg (by simpa using h)]
    simp

/-- A front is empty or ends with a slash. -/
theorem front_eq (dir : String) : front dir = [] ∨ ∃ t, front dir = t ++ ['/'] := by
  rw [front]
  split
  · rename_i h
    rcases h with h | h
    · exact .inl h
    · exact .inr (List.getLast?_eq_some_iff.1 h)
  · exact .inr ⟨dir.toList, rfl⟩

/-- The front of a joined path is the front of the one and that of the other. -/
theorem front_join {p : String} (dir : String) (relative : isAbsolute p = false) :
    front (join dir p) = front dir ++ front p := by
  by_cases hp : p.toList = []
  · have hjoin : (join dir p).toList = front dir := by
      rw [toList_join dir relative, hp, List.append_nil]
    have hfront : front p = [] := by rw [front, if_pos (.inl hp), hp]
    rw [hfront, List.append_nil]
    show (if _ then _ else _) = _
    rw [hjoin]
    rcases front_eq dir with h | ⟨t, h⟩ <;> simp [h]
  · have hlast : (front dir ++ p.toList).getLast? = p.toList.getLast? := by
      rw [List.getLast?_append]
      cases h : p.toList.getLast? with
      | none => exact absurd (List.getLast?_eq_none_iff.1 h) hp
      | some c => rfl
    show (if _ then _ else _) = front dir ++ if _ then _ else _
    rw [toList_join dir relative, hlast]
    by_cases h : p.toList.getLast? = some '/'
    · rw [if_pos (.inr h), if_pos (.inr h)]
    · rw [if_neg (by simp [h, hp]), if_neg (by simp [h, hp]), List.append_assoc]

theorem isAbsolute_join {p q : String} (hp : isAbsolute p = false) (hq : isAbsolute q = false) :
    isAbsolute (join p q) = false := by
  rw [isAbsolute, toList_join p hq, front]
  cases h : p.toList with
  | nil => simpa [isAbsolute] using hq
  | cons c s =>
    have hc : c ≠ '/' := by simpa [isAbsolute, h] using hp
    split <;> simp [hc]

/-- **Joining is associative on relative paths.** -/
theorem join_assoc {p q : String} (dir : String) (hp : isAbsolute p = false)
    (hq : isAbsolute q = false) : join (join dir p) q = join dir (join p q) := by
  apply String.toList_inj.1
  rw [toList_join _ hq, front_join dir hp, toList_join dir (isAbsolute_join hp hq),
    toList_join p hq, List.append_assoc]

/-- **The pieces of a joined path.** -/
theorem pieces_join {p : String} (dir : String) (relative : isAbsolute p = false) :
    pieces (join dir p) = lead dir ++ pieces p := by
  rw [lead, pieces_eq, pieces_eq, pieces_eq, toList_join dir relative, front]
  by_cases hempty : dir.toList = []
  · simp [hempty]
  · by_cases hlast : dir.toList.getLast? = some '/'
    · obtain ⟨t, ht⟩ := List.getLast?_eq_some_iff.1 hlast
      have hsplit : dir.toList.splitOn '/' = t.splitOn '/' ++ [[]] := by
        rw [ht, List.splitOn_append_cons_self, List.splitOn_nil]
      rw [if_pos (.inr hlast), if_neg hempty, if_pos hlast, hsplit, List.dropLast_concat, ht,
        List.append_assoc, List.singleton_append, List.splitOn_append_cons_self]
    · rw [if_neg (by simp [hempty, hlast]), if_neg hempty, if_neg hlast, List.append_assoc,
        List.singleton_append, List.splitOn_append_cons_self]

theorem mem_of_mem_lead {dir : String} {piece : List Char} (h : piece ∈ lead dir) :
    piece ∈ pieces dir := by
  rw [lead] at h
  split at h
  · simp at h
  · split at h
    · exact List.dropLast_subset _ h
    · exact h

/-- The path is the directory followed by names, none of which leads up again. -/
def Below (dir p : String) : Prop :=
  ∃ rest, isAbsolute rest = false ∧ up ∉ pieces rest ∧ p = join dir rest

theorem below_join {p : String} (dir : String) (relative : isAbsolute p = false)
    (noUp : up ∉ pieces p) : Below dir (join dir p) := ⟨p, relative, noUp, rfl⟩

/-- What is joined to a path below a directory is below it. -/
theorem Below.join {dir p q : String} (h : Below dir p) (relative : isAbsolute q = false)
    (noUp : up ∉ pieces q) : Below dir (join p q) := by
  obtain ⟨rest, hrest, hup, rfl⟩ := h
  refine ⟨Path.join rest q, isAbsolute_join hrest relative, ?_, join_assoc dir hrest relative⟩
  rw [pieces_join rest relative, List.mem_append, not_or]
  exact ⟨fun h => hup (mem_of_mem_lead h), noUp⟩

/-- A path below a directory begins with it. -/
theorem Below.front_prefix {dir p : String} (h : Below dir p) : front dir <+: p.toList := by
  obtain ⟨rest, hrest, -, rfl⟩ := h
  exact ⟨rest.toList, (toList_join dir hrest).symm⟩

/-- The path is one name, and not one that stands for a directory around it. -/
def IsName (p : String) : Prop := p ≠ "" ∧ '/' ∉ p.toList ∧ p ≠ "." ∧ p ≠ ".."

instance (p : String) : Decidable (IsName p) := inferInstanceAs (Decidable (_ ∧ _ ∧ _ ∧ _))

namespace IsName

variable {p : String}

theorem relative (h : IsName p) : isAbsolute p = false := by
  rw [isAbsolute, decide_eq_false_iff_not]
  exact fun hhead => h.2.1 (List.mem_of_head? hhead)

theorem pieces_eq (h : IsName p) : pieces p = [p.toList] := by
  rw [Path.pieces_eq, List.splitOn_eq_singleton h.2.1]

theorem up_notMem (h : IsName p) : up ∉ pieces p := by
  rw [h.pieces_eq, List.mem_singleton]
  intro hup
  apply h.2.2.2
  rw [← String.toList_inj, ← hup]
  rfl

end IsName

/-- A text without slashes, with an extension of at least two characters after the dot, is one
name. -/
theorem isName_append {name extension : String} (plain : '/' ∉ name.toList)
    (long : 3 ≤ extension.toList.length) (clean : '/' ∉ extension.toList) :
    IsName (name ++ extension) := by
  have hlength : 3 ≤ (name ++ extension).toList.length := by
    rw [String.toList_append, List.length_append]
    omega
  refine ⟨fun h => ?_, ?_, fun h => ?_, fun h => ?_⟩
  · rw [h] at hlength
    exact absurd hlength (by decide)
  · rw [String.toList_append, List.mem_append, not_or]
    exact ⟨plain, clean⟩
  · rw [h] at hlength
    exact absurd hlength (by decide)
  · rw [h] at hlength
    exact absurd hlength (by decide)

theorem utf8ByteSize_le_join (dir : String) {p : String} (relative : isAbsolute p = false) :
    dir.utf8ByteSize ≤ (join dir p).utf8ByteSize := by
  rw [join, relative, if_neg Bool.false_ne_true]
  split
  · simp
  · simp only [String.utf8ByteSize_append]
    omega

end Path

/-! ### Locations -/

namespace Location

/-- The names of a location are not empty and have no slash in them. -/
def IsProper (l : Location) : Prop := ∀ name ∈ l, name ≠ "" ∧ '/' ∉ name.toList

instance (l : Location) : Decidable l.IsProper :=
  inferInstanceAs (Decidable (∀ name ∈ l, _ ∧ _))

theorem toList_path (l : Location) :
    l.path.toList = '/' :: ['/'].intercalate (l.map String.toList) := by
  simp [path, String.toList_intercalate]

/-- The path of a location ends with its last name. -/
theorem toList_path_concat (l : Location) (name : String) :
    ∃ t, (path (l ++ [name])).toList = t ++ '/' :: name.toList := by
  rw [toList_path, List.map_append, List.map_singleton]
  cases l with
  | nil => exact ⟨[], by simp⟩
  | cons n ns =>
    rw [Text.intercalate_append (by simp) (by simp)]
    exact ⟨'/' :: ['/'].intercalate ((n :: ns).map String.toList), by simp⟩

/-- The path of a proper location, with the slash after which a name is put. -/
theorem front_path {l : Location} (proper : l.IsProper) :
    Path.front l.path = if l = [] then ['/'] else l.path.toList ++ ['/'] := by
  cases l using List.reverseRecOn with
  | nil => rfl
  | append_singleton l name =>
    -- The last name is not empty and does not end with a slash.
    obtain ⟨hname, hslash⟩ := proper name (by simp)
    obtain ⟨t, ht⟩ := toList_path_concat l name
    have hne : name.toList ≠ [] := fun h => hname (String.toList_eq_nil_iff.1 h)
    have hlast : (path (l ++ [name])).toList.getLast? ≠ some '/' := by
      rw [ht, List.getLast?_append, List.getLast?_cons_of_ne_nil hne]
      intro h
      cases hl : name.toList.getLast? with
      | none => exact hne (List.getLast?_eq_none_iff.1 hl)
      | some c =>
        rw [hl] at h
        cases h
        exact hslash (List.mem_of_getLast? hl)
    rw [if_neg (by simp), Path.front, if_neg]
    rw [not_or]
    exact ⟨by rw [ht]; simp, hlast⟩

/-- **What is below a location is below its path.** -/
theorem below_path {l : Location} (proper : l.IsProper) {names : List String}
    (some_name : names ≠ [])
    (plain : ∀ name ∈ names, name ≠ "" ∧ '/' ∉ name.toList ∧ name ≠ "..") :
    Path.Below l.path (path (l ++ names)) := by
  have hne : names.map String.toList ≠ [] := by simpa using some_name
  have pieces : Path.pieces ("/".intercalate names) = names.map String.toList := by
    rw [Path.pieces_eq, String.toList_intercalate]
    refine List.splitOn_intercalate '/' (fun p hp => ?_) hne
    obtain ⟨name, hname, rfl⟩ := List.mem_map.1 hp
    exact (plain name hname).2.1
  have relative : Path.isAbsolute ("/".intercalate names) = false := by
    cases names with
    | nil => exact absurd rfl some_name
    | cons name names =>
      obtain ⟨hname, hslash, -⟩ := plain name List.mem_cons_self
      rw [Path.isAbsolute, String.toList_intercalate, decide_eq_false_iff_not]
      cases hc : name.toList with
      | nil => exact absurd (String.toList_eq_nil_iff.1 hc) hname
      | cons c s =>
        rw [List.map_cons, hc, List.intercalate_cons_cons_left, List.head?_cons]
        rintro ⟨⟩
        exact hslash (hc ▸ List.mem_cons_self)
  refine ⟨"/".intercalate names, relative, ?_, ?_⟩
  · rw [pieces, List.mem_map]
    rintro ⟨name, hname, hup⟩
    exact (plain name hname).2.2 (String.toList_inj.1 hup)
  · apply String.toList_inj.1
    rw [Path.toList_join _ relative, front_path proper, String.toList_intercalate, toList_path,
      toList_path, List.map_append]
    split
    · rename_i hl
      simp [hl]
    · rename_i hl
      rw [Text.intercalate_append (by simpa using hl) hne]
      simp

end Location

/-! ### Following paths -/

namespace FileTree

variable {t : FileTree} {l l' : Location}

theorem follow_append (t : FileTree) (l : Location) (names more : List String) :
    t.follow l (names ++ more) = (t.follow l names).bind fun l => t.follow l more := by
  induction names generalizing l with
  | nil => rfl
  | cons name names ih =>
    rw [List.cons_append, follow, follow]
    split
    · rfl
    · rfl
    · simp only [ih]
      split
      · rfl
      · split
        · rfl
        · split <;> rfl

/-- Names that do not lead up are added to a location, without those that name nothing. -/
theorem follow_eq_append {names : List String} (noUp : ".." ∉ names)
    (h : t.follow l names = .ok l') : l' = l ++ names.filter fun n => n ≠ "" && n ≠ "." := by
  induction names generalizing l with
  | nil =>
    cases h
    simp
  | cons name names ih =>
    simp only [List.mem_cons, not_or] at noUp
    rw [follow] at h
    split at h
    · cases h
    · cases h
    · by_cases hidle : name = "" ∨ name = "."
      · rw [if_pos (by simpa using hidle)] at h
        rw [ih noUp.2 h, List.filter_cons_of_neg (by rcases hidle with rfl | rfl <;> simp)]
      · rw [if_neg (by simpa using hidle), if_neg (Ne.symm noUp.1)] at h
        split at h
        · cases h
        · rw [ih noUp.2 h, List.filter_cons_of_pos (by simpa using hidle), List.append_assoc]
          rfl

/-- A name on the way was there before, or was followed and names something. -/
theorem mem_of_follow {names : List String} {n : String} (h : t.follow l names = .ok l')
    (hn : n ∈ l') : n ∈ l ∨ (n ∈ names ∧ n ≠ "" ∧ n ≠ "." ∧ n ≠ "..") := by
  induction names generalizing l with
  | nil =>
    cases h
    exact .inl hn
  | cons name names ih =>
    have hrest : ∀ {m : Location}, t.follow m names = .ok l' →
        n ∈ m ∨ (n ∈ name :: names ∧ n ≠ "" ∧ n ≠ "." ∧ n ≠ "..") := fun hm =>
      (ih hm).imp_right fun ⟨hmem, hplain⟩ => ⟨List.mem_cons_of_mem _ hmem, hplain⟩
    rw [follow] at h
    split at h
    · cases h
    · cases h
    · split at h
      · exact hrest h
      · rename_i hidle
        split at h
        · exact (hrest h).imp_left fun hmem => List.dropLast_subset _ hmem
        · rename_i hup
          split at h
          · cases h
          · refine (hrest h).elim (fun hmem => ?_) .inr
            rcases List.mem_append.1 hmem with hmem | hmem
            · exact .inl hmem
            · rw [List.mem_singleton] at hmem
              subst hmem
              simp only [Bool.or_eq_true, decide_eq_true_eq, not_or] at hidle
              exact .inr ⟨List.mem_cons_self, hidle.1, hidle.2, hup⟩

/-- Names without slashes lead from proper locations to proper ones. -/
theorem follow_isProper {names : List String} (proper : l.IsProper)
    (clean : ∀ name ∈ names, '/' ∉ name.toList) (h : t.follow l names = .ok l') :
    l'.IsProper := by
  intro n hn
  rcases mem_of_follow h hn with hmem | ⟨hmem, hnonempty, -, -⟩
  · exact proper n hmem
  · exact ⟨hnonempty, clean n hmem⟩

/-- Where names can be followed, they start at a directory. -/
theorem entry?_of_follow {names : List String} (some_name : names ≠ [])
    (h : t.follow l names = .ok l') : t.entry? l = some .directory := by
  cases names with
  | nil => exact absurd rfl some_name
  | cons name names =>
    rw [follow] at h
    split at h
    · cases h
    · cases h
    · assumption

/-- The location at which a path starts. -/
def origin (t : FileTree) (path : String) : Location :=
  if Path.isAbsolute path then [] else t.working

/-- A path leads to a location if it is not empty, has no character that ends texts, is not too
long, and can be followed from its origin. -/
theorem locate_eq_ok {path : String} :
    t.locate path = .ok l ↔
      (path ≠ "" ∧ '\x00' ∉ path.toList ∧ path.utf8ByteSize < pathLimit) ∧
        t.follow (t.origin path) ((Path.pieces path).map String.ofList) = .ok l := by
  have hcontains : path.toList.contains '\x00' = true ↔ '\x00' ∈ path.toList := by simp
  rw [locate]
  simp only [hcontains, String.isEmpty_iff]
  by_cases hempty : path = ""
  · rw [if_pos hempty]
    exact ⟨nofun, fun h => absurd hempty h.1.1⟩
  · rw [if_neg hempty]
    by_cases hnul : '\x00' ∈ path.toList
    · rw [if_pos hnul]
      exact ⟨nofun, fun h => absurd hnul h.1.2.1⟩
    · rw [if_neg hnul]
      by_cases hlong : pathLimit ≤ path.utf8ByteSize
      · rw [if_pos hlong]
        exact ⟨nofun, fun h => absurd h.1.2.2 (by omega)⟩
      · rw [if_neg hlong]
        exact ⟨fun h => ⟨⟨hempty, hnul, by omega⟩, h⟩, fun h => h.2⟩

/-- What is found stands at the location of its path. -/
theorem find_eq_ok {path : String} {e : Entry} :
    t.find path = .ok (l, e) ↔ t.locate path = .ok l ∧ t.entry? l = some e := by
  rw [find]
  cases t.locate path with
  | error fault => simp [bind, Except.bind]
  | ok k =>
    simp only [bind, Except.bind, Except.ok.injEq]
    cases hk : t.entry? k with
    | none =>
      simp only [reduceCtorEq, false_iff, not_and]
      rintro rfl
      simp [hk]
    | some e' =>
      simp only [pure, Except.pure, Except.ok.injEq, Prod.mk.injEq]
      constructor
      · rintro ⟨rfl, rfl⟩
        exact ⟨rfl, hk⟩
      · rintro ⟨rfl, he⟩
        exact ⟨rfl, Option.some.inj (hk.symm.trans he)⟩

/-- The names before the last slash of a directory lead to where the directory is. -/
theorem follow_pieces_of_lead {dir : String} (nonempty : dir ≠ "") {o : Location}
    (h : t.follow o ((Path.lead dir).map String.ofList) = .ok l)
    (directory : t.entry? l = some .directory) :
    t.follow o ((Path.pieces dir).map String.ofList) = .ok l := by
  have hne : dir.toList ≠ [] := fun h => nonempty (String.toList_eq_nil_iff.1 h)
  rw [Path.lead, if_neg hne] at h
  split at h
  · rename_i hlast
    -- The piece after the last slash is empty, and names nothing.
    obtain ⟨s, hs⟩ := List.getLast?_eq_some_iff.1 hlast
    have hpieces : Path.pieces dir = s.splitOn '/' ++ [[]] := by
      rw [Path.pieces_eq, hs, List.splitOn_append_cons_self, List.splitOn_nil]
    rw [hpieces, List.dropLast_concat] at h
    rw [hpieces, List.map_append, follow_append, h]
    show t.follow l [""] = _
    simp [follow, directory]
  · exact h

/-- A path that is joined to a directory starts where the directory starts. -/
theorem origin_join {dir p : String} (nonempty : dir ≠ "") (relative : Path.isAbsolute p = false) :
    t.origin (Path.join dir p) = t.origin dir := by
  have hhead : Path.isAbsolute (Path.join dir p) = Path.isAbsolute dir := by
    rw [Path.isAbsolute, Path.isAbsolute, Path.toList_join dir relative, Path.front]
    obtain ⟨c, s, hcs⟩ :=
      List.exists_cons_of_ne_nil fun h => nonempty (String.toList_eq_nil_iff.1 h)
    split <;> simp [hcs]
  rw [origin, hhead, origin]

/-- **Where a joined path is found, its directory is found**, and the rest is followed from there. -/
theorem find_join {dir p : String} {e : Entry} (nonempty : dir ≠ "")
    (relative : Path.isAbsolute p = false) (h : t.find (Path.join dir p) = .ok (l, e)) :
    ∃ base, t.find dir = .ok (base, .directory) ∧
      t.follow base ((Path.pieces p).map String.ofList) = .ok l := by
  obtain ⟨⟨-, hnul, hshort⟩, hfollow⟩ := locate_eq_ok.1 (find_eq_ok.1 h).1
  rw [Path.pieces_join dir relative, List.map_append, follow_append] at hfollow
  have horigin := t.origin_join nonempty relative
  obtain ⟨base, hbase⟩ : ∃ base,
      t.follow (t.origin dir) ((Path.lead dir).map String.ofList) = .ok base := by
    rw [horigin] at hfollow
    cases hlead : t.follow (t.origin dir) ((Path.lead dir).map String.ofList) with
    | error fault =>
      rw [hlead] at hfollow
      cases hfollow
    | ok base => exact ⟨base, rfl⟩
  have hrest : t.follow base ((Path.pieces p).map String.ofList) = .ok l := by
    rw [horigin, hbase] at hfollow
    exact hfollow
  have hdirectory : t.entry? base = some .directory := by
    refine entry?_of_follow ?_ hrest
    rw [Path.pieces_eq]
    simp
  refine ⟨base, find_eq_ok.2 ⟨locate_eq_ok.2 ⟨⟨nonempty, ?_, ?_⟩, ?_⟩, hdirectory⟩, hrest⟩
  · intro hmem
    apply hnul
    rw [Path.toList_join dir relative, List.mem_append, Path.front]
    left
    split
    · exact hmem
    · exact List.mem_append_left _ hmem
  · exact Nat.lt_of_le_of_lt (Path.utf8ByteSize_le_join dir relative) hshort
  · exact follow_pieces_of_lead nonempty hbase hdirectory

/-- **A name that is joined to a directory is the last one of the location.** -/
theorem locate_join_eq_append {dir name : String} (hname : Path.IsName name)
    (h : t.locate (Path.join dir name) = .ok l) : ∃ base, l = base ++ [name] := by
  have hfollow := (locate_eq_ok.1 h).2
  rw [Path.pieces_join dir hname.relative, hname.pieces_eq, List.map_append, follow_append] at hfollow
  cases hlead : t.follow (t.origin (Path.join dir name)) ((Path.lead dir).map String.ofList) with
  | error fault =>
    rw [hlead] at hfollow
    cases hfollow
  | ok base =>
    have hlast : t.follow base [name] = .ok l := by
      rw [hlead] at hfollow
      simpa [Except.bind] using hfollow
    refine ⟨base, ?_⟩
    rw [follow_eq_append (by simpa using Ne.symm hname.2.2.2) hlast,
      List.filter_cons_of_pos (by simp [hname.1, hname.2.2.1])]
    rfl

end FileTree

end SuiteRunner
