import SuiteRunner.Proofs.FileMoves

/-!
# Where directories are created

A directory is created at a path, and before it those on the way to it.  The path of the directory
above another one is what stands before a slash of it.

* `Path.parent?_cases`, the path of the directory above;
* **`FileTree.createDirectories_of_isDirectory`** — a directory that is there is not created again;
* **`FileTree.isDirectory_of_createDirectories`** — what is created is there;
* **`FileTree.createUpTo_above`** — nothing is created but on the way to the path.
-/

namespace SuiteRunner

/-! ### The directory above -/

namespace Path

theorem dropIdle_suffix (ps : List (List Char)) : dropIdle ps <:+ ps := by
  induction ps with
  | nil => exact List.suffix_refl _
  | cons p ps ih =>
    cases ps with
    | nil => exact List.suffix_refl _
    | cons q ps =>
      rw [dropIdle]
      split
      · exact ih.trans (List.suffix_cons _ _)
      · exact List.suffix_refl _
      · simp

/-- What is left of pieces starts with one that names something, or is one piece. -/
theorem dropIdle_eq {ps : List (List Char)} (hps : ps ≠ []) :
    ∃ p rest, dropIdle ps = p :: rest ∧ (rest = [] ∨ isIdle p = false) := by
  induction ps with
  | nil => exact absurd rfl hps
  | cons p ps ih =>
    cases ps with
    | nil => exact ⟨p, [], rfl, .inl rfl⟩
    | cons q ps =>
      rw [dropIdle]
      · split
        · exact ih (by simp)
        · exact ⟨p, q :: ps, rfl, .inr (by simpa using ‹¬isIdle p = true›)⟩
      · simp

/-- A path of pieces ends with the last one. -/
theorem getLast?_ofPieces {d : List Char} (front : List (List Char)) (hne : d ≠ []) :
    (ofPieces (front ++ [d])).toList.getLast? = some (d.getLast hne) := by
  rw [ofPieces, String.toList_ofList]
  by_cases hfront : front = []
  · simp [hfront, List.getLast?_eq_some_getLast hne]
  · rw [Text.intercalate_append hfront (by simp), List.getLast?_append]
    simp [List.getLast?_eq_some_getLast hne]

theorem toList_eq_of_pieces {p : String} {front back : List (List Char)} (hfront : front ≠ [])
    (hback : back ≠ []) (h : pieces p = front ++ back) :
    p.toList = (ofPieces front).toList ++ '/' :: ['/'].intercalate back := by
  have hp : ['/'].intercalate (pieces p) = p.toList := by
    rw [pieces_eq, List.intercalate_splitOn]
  rw [← hp, h, ofPieces, String.toList_ofList, Text.intercalate_append hfront hback,
    List.append_assoc, List.singleton_append]

/-- **The path of the directory above** is empty, or the root, or what stands before a slash; it
does not end with a slash then. -/
theorem parent?_cases {p dir : String} (h : parent? p = some dir) : (dir = "" ∨ dir = "/") ∨
    dir ≠ "" ∧ dir.toList.getLast? ≠ some '/' ∧ ∃ rest, p.toList = dir.toList ++ '/' :: rest := by
  obtain ⟨idle, hidle⟩ := dropIdle_suffix (pieces p).reverse
  change idle ++ trimmed p = _ at hidle
  rw [parent?] at h
  split at h
  · cases h
  · split at h
    · cases h
    · cases h
      exact .inl (.inl rfl)
  · rename_i piece ps hmany htrimmed
    obtain ⟨idle', hidle'⟩ := dropIdle_suffix ps
    obtain ⟨d, rest, hdrop, hd⟩ := dropIdle_eq hmany
    rw [hdrop] at h
    split at h
    · cases h
      exact .inl (.inr rfl)
    · rename_i hroot
      cases h
      right
      rw [List.reverse_cons]
      have hpieces : pieces p = (rest.reverse ++ [d]) ++ (idle ++ piece :: idle').reverse := by
        rw [← List.reverse_inj, ← hidle, htrimmed, ← hidle', hdrop]
        simp
      have hne : d ≠ [] := by
        rintro rfl
        rcases hd with rfl | hd
        · exact hroot rfl
        · exact absurd hd (by decide)
      have hslash : '/' ∉ d := by
        have hmem : d ∈ pieces p := by
          rw [hpieces]
          simp
        rw [pieces_eq] at hmem
        exact Text.notMem_of_mem_splitOn hmem
      have hlast := getLast?_ofPieces rest.reverse hne
      refine ⟨fun h => ?_, fun h => ?_, _, toList_eq_of_pieces (by simp) (by simp) hpieces⟩
      · rw [h] at hlast
        cases hlast
      · rw [hlast] at h
        exact hslash (Option.some.inj h ▸ List.getLast_mem hne)

/-- A path that does not end with a slash is a piece of text that is joined to a directory. -/
theorem exists_join {p : String} (hp : p ≠ "") (bare : p.toList.getLast? ≠ some '/') :
    ∃ dir name, p = join dir name ∧ name ≠ "" ∧ '/' ∉ name.toList := by
  by_cases hslash : '/' ∈ p.toList
  · -- The piece after the last slash.
    obtain ⟨after, before, hrev, hafter⟩ := List.eq_append_cons_of_mem (List.mem_reverse.2 hslash)
    have hp : p.toList = before.reverse ++ '/' :: after.reverse := by
      rw [← List.reverse_reverse p.toList, hrev]
      simp
    have hplain : '/' ∉ after.reverse := by simpa using hafter
    have hne : after ≠ [] := by
      rintro rfl
      exact bare (by rw [hp]; simp)
    refine ⟨String.ofList (before.reverse ++ ['/']), String.ofList after.reverse, ?_, ?_, ?_⟩
    · apply String.toList_inj.1
      rw [toList_join]
      · rw [front, if_pos (.inr (by simp))]
        simp [hp]
      · rw [isAbsolute, String.toList_ofList, decide_eq_false_iff_not]
        exact fun h => hplain (List.mem_of_head? h)
    · intro h
      apply hne
      simpa using congrArg String.toList h
    · rwa [String.toList_ofList]
  · have hrelative : isAbsolute p = false := by
      rw [isAbsolute, decide_eq_false_iff_not]
      exact fun h => hslash (List.mem_of_head? h)
    refine ⟨"", p, String.toList_inj.1 ?_, hp, hslash⟩
    rw [toList_join "" hrelative]
    rfl

/-- The names of a path, without the pieces that name nothing. -/
def names (p : String) : List String :=
  ((pieces p).map String.ofList).filter fun n => n ≠ "" && n ≠ "."

theorem names_of_split {p q : String} {rest : List Char} (h : p.toList = q.toList ++ '/' :: rest) :
    names p = names q ++ names (String.ofList rest) := by
  rw [names, names, names, pieces_eq, pieces_eq, pieces_eq, h, List.splitOn_append_cons_self,
    List.map_append, List.filter_append, String.toList_ofList]

theorem up_notMem_of_split {p q : String} {rest : List Char}
    (h : p.toList = q.toList ++ '/' :: rest) (noUp : up ∉ pieces p) : up ∉ pieces q := by
  rw [pieces_eq, h, List.splitOn_append_cons_self, List.mem_append, not_or] at noUp
  rw [pieces_eq]
  exact noUp.1

/-- What stands before a slash has fewer names than a path that ends with a name. -/
theorem names_ne_nil_of_split {dir name q : String} {rest : List Char} (hname : IsName name)
    (h : (join dir name).toList = q.toList ++ '/' :: rest) :
    names (String.ofList rest) ≠ [] := by
  have hlast : name.toList ∈ rest.splitOn '/' := by
    have hpieces := pieces_join dir hname.relative
    rw [hname.pieces_eq, pieces_eq, h, List.splitOn_append_cons_self] at hpieces
    have hends := congrArg List.getLast? hpieces
    rw [List.getLast?_concat, List.getLast?_append,
      List.getLast?_eq_some_getLast (List.splitOn_ne_nil _ _), Option.some_or] at hends
    rw [← Option.some.inj hends]
    exact List.getLast_mem _
  refine List.ne_nil_of_mem (a := name) (List.mem_filter.2 ⟨?_, ?_⟩)
  · rw [pieces_eq, String.toList_ofList]
    exact List.mem_map.2 ⟨_, hlast, String.ofList_toList⟩
  · simp [hname.1, hname.2.2.1]

theorem isAbsolute_of_split {p q : String} {rest : List Char} (hq : q ≠ "")
    (h : p.toList = q.toList ++ '/' :: rest) : isAbsolute p = isAbsolute q := by
  obtain ⟨c, s, hcs⟩ := List.exists_cons_of_ne_nil fun h => hq (String.toList_eq_nil_iff.1 h)
  rw [isAbsolute, isAbsolute, h, hcs]
  rfl

end Path

namespace FileTree

variable {t t' : FileTree} {k l : Location} {path : String}

/-! ### Directories that are there -/

/-- A path that does not end with a slash is not made shorter. -/
theorem strip_of_bare (bare : path.toList.getLast? ≠ some '/') :
    String.ofList (path.toList.reverse.dropWhile (· = '/')).reverse = path := by
  have hkept : path.toList.reverse.dropWhile (· = '/') = path.toList.reverse := by
    cases hrev : path.toList.reverse with
    | nil => rfl
    | cons c s =>
      refine List.dropWhile_cons_of_neg ?_
      rw [← List.head?_reverse, hrev, List.head?_cons] at bare
      simpa using bare
  rw [hkept, List.reverse_reverse, String.ofList_toList]

theorem createDirectory_of_isDirectory (bare : path.toList.getLast? ≠ some '/')
    (h : t.isDirectory path = true) : t.createDirectory path = .error .exists := by
  obtain ⟨l, hfind⟩ := isDirectory_iff.1 h
  obtain ⟨hlocate, hdirectory⟩ := find_eq_ok.1 hfind
  rw [createDirectory]
  simp only [strip_of_bare bare]
  rw [if_neg (by simp), hlocate]
  simp only [bind, Except.bind, hdirectory]
  rfl

/-- **A directory that is there is not created again.** -/
theorem createDirectories_of_isDirectory (bare : path.toList.getLast? ≠ some '/')
    (h : t.isDirectory path = true) : t.createDirectories path = .ok t := by
  have hcreate := createDirectory_of_isDirectory bare h
  obtain ⟨l, hfind⟩ := isDirectory_iff.1 h
  have hpath := (locate_eq_ok.1 (find_eq_ok.1 hfind).1).1.1
  rw [createDirectories, createUpTo, if_neg (by simpa using hpath)]
  simp only [hcreate, h, if_true]

theorem isDirectory_of_createDirectory (bare : path.toList.getLast? ≠ some '/')
    (h : t.createDirectory path = .ok t') : t'.isDirectory path = true := by
  have grown := grown_of_createDirectory h
  rw [createDirectory, bind_eq_ok] at h
  obtain ⟨l, hlocate, h⟩ := h
  rw [strip_of_bare bare, if_neg (by simp)] at hlocate
  have hl : t'.entry? l = some .directory := by
    split at h
    · cases h
    · rename_i hnone _
      cases h
      rw [entry?_put (ne_root (t := t) (by rw [hnone]; simp)), if_pos rfl]
    · cases h
    · cases h
  obtain ⟨hsizes, hfollow⟩ := locate_eq_ok.1 hlocate
  refine isDirectory_iff.2 ⟨l, find_eq_ok.2 ⟨locate_eq_ok.2 ⟨hsizes, ?_⟩, hl⟩⟩
  rw [origin, grown.working]
  exact follow_of_directories (fun k => grown.directory) hfollow

theorem isDirectory_of_createUpTo {fuel : Nat} (bare : path.toList.getLast? ≠ some '/')
    (hpath : path ≠ "") (h : t.createUpTo path fuel = .ok t') : t'.isDirectory path = true := by
  cases fuel with
  | zero => cases h
  | succ fuel =>
    obtain ⟨hempty, -⟩ | ⟨-, u, -, hcreate | ⟨hthere, rfl⟩⟩ := createUpTo_cases h
    · exact absurd hempty hpath
    · exact isDirectory_of_createDirectory bare hcreate
    · exact hthere

/-- **What is created is there.** -/
theorem isDirectory_of_createDirectories (bare : path.toList.getLast? ≠ some '/')
    (hpath : path ≠ "") (h : t.createDirectories path = .ok t') : t'.isDirectory path = true :=
  isDirectory_of_createUpTo bare hpath h

/-! ### Directories on the way -/

theorem up_notMem_names (noUp : Path.up ∉ Path.pieces path) :
    ".." ∉ (Path.pieces path).map String.ofList := by
  intro hmem
  obtain ⟨piece, hpiece, hup⟩ := List.mem_map.1 hmem
  have : piece = Path.up := by
    rw [← String.toList_ofList (l := piece), hup]
    rfl
  exact noUp (this ▸ hpiece)

/-- Where a path leads that does not lead up. -/
theorem eq_of_locate (noUp : Path.up ∉ Path.pieces path) (h : t.locate path = .ok l) :
    l = t.origin path ++ Path.names path :=
  follow_eq_append (up_notMem_names noUp) (locate_eq_ok.1 h).2

theorem createDirectory_above (noUp : Path.up ∉ Path.pieces path)
    (bare : path.toList.getLast? ≠ some '/') (h : t.createDirectory path = .ok t') (k : Location) :
    t'.entry? k = t.entry? k ∨ k.length ≤ (t.origin path ++ Path.names path).length := by
  rw [createDirectory, bind_eq_ok] at h
  obtain ⟨l, hlocate, h⟩ := h
  rw [strip_of_bare bare, if_neg (by simp)] at hlocate
  split at h
  · cases h
  · rename_i hnone _
    cases h
    rw [entry?_put (ne_root (t := t) (by rw [hnone]; simp))]
    by_cases hk : k = l
    · rw [hk, ← eq_of_locate noUp hlocate]
      exact .inr (Nat.le_refl _)
    · exact .inl (if_neg hk)
  · cases h
  · cases h

/-- The working directory and the root are there. -/
theorem createUpTo_eq_ok (hpath : path = "" ∨ path = "/") (fuel : Nat) :
    t.createUpTo path (fuel + 1) = .ok t := by
  rcases hpath with rfl | rfl
  · rfl
  · have hcreate : t.createDirectory "/" = .error .exists := rfl
    have hthere : t.isDirectory "/" = true := rfl
    rw [createUpTo, if_neg (by decide)]
    simp only [hcreate, hthere, if_true]

theorem eq_of_createUpTo {fuel : Nat} (hpath : path = "" ∨ path = "/")
    (h : t.createUpTo path fuel = .ok t') : t' = t := by
  cases fuel with
  | zero => cases h
  | succ fuel => exact Except.ok.inj (h.symm.trans (createUpTo_eq_ok hpath fuel))

/-- **Directories are created above the path only.** -/
theorem createUpTo_above {fuel : Nat} (noUp : Path.up ∉ Path.pieces path)
    (bare : path.toList.getLast? ≠ some '/') (h : t.createUpTo path fuel = .ok t') (k : Location) :
    t'.entry? k = t.entry? k ∨ k.length ≤ (t.origin path ++ Path.names path).length := by
  induction fuel generalizing t' path with
  | zero => cases h
  | succ fuel ih =>
    obtain ⟨-, rfl⟩ | ⟨-, u, around, last⟩ := createUpTo_cases h
    · exact .inl rfl
    · have habove : t.Grown u ∧ (u.entry? k = t.entry? k ∨
          k.length ≤ (t.origin path ++ Path.names path).length) := by
        obtain rfl | ⟨parent, hparent, hup⟩ := around
        · exact ⟨.refl u, .inl rfl⟩
        · refine ⟨grown_of_createUpTo hup, ?_⟩
          -- The directories above the parent are above the path, too.
          rcases Path.parent?_cases hparent with hidle | ⟨hne, hbare, rest, hrest⟩
          · exact .inl (by rw [eq_of_createUpTo hidle hup])
          · refine (ih (Path.up_notMem_of_split hrest noUp) hbare hup).imp_right fun hk => ?_
            rw [Path.names_of_split hrest, origin, Path.isAbsolute_of_split hne hrest,
              ← origin, ← List.append_assoc, List.length_append]
            omega
      obtain ⟨grown, habove⟩ := habove
      obtain hcreate | ⟨-, rfl⟩ := last
      · have hlast := createDirectory_above noUp bare hcreate k
        rw [show u.origin path = t.origin path by rw [origin, origin, grown.working]] at hlast
        rcases hlast with heq | hk
        · rw [heq]
          exact habove
        · exact .inr hk
      · exact habove

/-- At a path that does not lead up, there is only what was there before if no directory was created
there. -/
theorem Grown.exists?_of_exists? (grown : t.Grown t') (regular : t.IsRegular)
    (noUp : Path.up ∉ Path.pieces path) (h : t'.exists? path = true)
    (kept : ∀ l, t'.locate path = .ok l → t'.entry? l = t.entry? l) : t.exists? path = true := by
  obtain ⟨l, e, hfind⟩ := exists?_iff.1 h
  obtain ⟨hlocate, hentry⟩ := find_eq_ok.1 hfind
  obtain ⟨hpath, hfollow⟩ := locate_eq_ok.1 hlocate
  rw [kept l hlocate] at hentry
  refine exists?_iff.2 ⟨l, e, find_eq_ok.2 ⟨locate_eq_ok.2 ⟨hpath, ?_⟩, hentry⟩⟩
  rw [origin, grown.working] at hfollow
  refine follow_of_way (up_notMem_names noUp) (fun m hm hdirectory => ?_) hfollow
  obtain ⟨rest, rfl⟩ := hm
  by_cases hrest : rest = []
  · rw [hrest, List.append_nil] at hlocate
    rw [← kept m hlocate]
    exact hdirectory
  · exact directory_of_append regular.inside hrest (by rw [hentry]; simp)

end FileTree

end SuiteRunner
