import Mathlib.Data.List.TakeWhile
import SuiteRunner.Proofs.Paths
import SuiteRunner.Proofs.Verdicts
import SuiteRunner.Suite.Discovery

/-!
# The names of suite files

The name of a suite file is `testsuite_<type>_<name>` with one of three extensions.  The program
reads it twice, once to tell suite files from others and once to select the type.

* `Path.name?_join`, the last name of a joined path;
* `Path.splitName_eq_some` — a name is split at its last dot;
* `splitStem?_eq_some` — a stem is split at the first underscore after its front;
* **`isSuitePath_and_hasType_iff`** — both checks together are the grammar `IsSuiteName`.
-/

namespace SuiteRunner

/-! ### Parts of a path -/

namespace Path

variable {dir name : String} {s stem ext : List Char}

/-- The last name of a joined path. -/
theorem name?_join (dir : String) (hname : IsName name) : name? (join dir name) = some name := by
  have hidle : isIdle name.toList = false := by
    have hnil : name.toList ≠ [] := fun h => hname.1 (String.toList_eq_nil_iff.1 h)
    have hdot : name.toList ≠ ['.'] := fun h => hname.2.2.1 (String.toList_inj.1 h)
    simp [isIdle, hnil, hdot]
  have hup : name.toList ≠ ['.', '.'] := fun h => hname.2.2.2 (String.toList_inj.1 h)
  have htrimmed : ∃ ps, trimmed (join dir name) = name.toList :: ps := by
    rw [trimmed, pieces_join dir hname.relative, hname.pieces_eq, List.reverse_append,
      List.reverse_singleton, List.singleton_append]
    cases (lead dir).reverse with
    | nil => exact ⟨[], rfl⟩
    | cons p ps => exact ⟨p :: ps, by simp [dropIdle, hidle]⟩
  obtain ⟨ps, hps⟩ := htrimmed
  rw [name?, hps]
  simp [hidle, hup]

/-- What follows the last dot of a name is its extension. -/
theorem splitName_append (h : stem ≠ []) (noDot : '.' ∉ ext) :
    splitName (stem ++ '.' :: ext) = (stem, some ext) := by
  have hafter : (stem ++ '.' :: ext).reverse.takeWhile (· != '.') = ext.reverse := by
    rw [List.reverse_append, List.reverse_cons, List.append_assoc, List.takeWhile_append_of_pos]
    · simp
    · intro c hc
      simpa using fun hdot : c = '.' => noDot (hdot ▸ List.mem_reverse.1 hc)
  have hbefore : ((stem ++ '.' :: ext).reverse.drop (ext.reverse.length + 1)).reverse = stem := by
    rw [List.reverse_append, List.reverse_cons, List.append_assoc, List.drop_length_add_append]
    simp
  rw [splitName]
  simp only [hafter, hbefore]
  simp [h]

/-- **A name is split at its last dot**, if something stands before it. -/
theorem splitName_eq_some :
    splitName s = (stem, some ext) ↔ stem ≠ [] ∧ '.' ∉ ext ∧ s = stem ++ '.' :: ext := by
  constructor
  · intro h
    by_cases hdot : '.' ∈ s.reverse
    · obtain ⟨front, back, hs, hfront⟩ := List.eq_append_cons_of_mem hdot
      have hsplit : s = back.reverse ++ '.' :: front.reverse := by
        rw [← List.reverse_reverse s, hs]
        simp
      by_cases hback : back = []
      · -- A dot in front of a name does not split it.
        rw [hsplit, hback, splitName] at h
        simp only [List.reverse_nil, List.nil_append, List.reverse_cons, List.reverse_reverse] at h
        have hfree : ∀ c ∈ front, (c != '.') = true := by
          simpa using fun c hc => ne_of_mem_of_not_mem hc hfront
        rw [List.takeWhile_append_of_pos hfree] at h
        simp at h
      · have hdots : '.' ∉ front.reverse := fun h => hfront (List.mem_reverse.1 h)
        rw [hsplit, splitName_append (by simpa using hback) hdots] at h
        cases h
        exact ⟨by simpa using hback, hdots, hsplit⟩
    · have hall : s.reverse.takeWhile (· != '.') = s.reverse := by
        rw [List.takeWhile_eq_self_iff]
        simpa using fun c hc => ne_of_mem_of_not_mem (List.mem_reverse.2 hc) hdot
      rw [splitName, hall] at h
      simp at h
  · rintro ⟨hstem, hext, rfl⟩
    exact splitName_append hstem hext

end Path

/-! ### Stems -/

variable {dir name type path stem : String} {s before after : List Char}

/-- A text is split at the first occurrence of a character. -/
theorem Text.splitAt?_eq_some {sep : Char} :
    splitAt? [sep] s = some (before, after) ↔ s = before ++ sep :: after ∧ sep ∉ before := by
  induction s generalizing before with
  | nil => simp [splitAt?]
  | cons c s ih =>
    rw [splitAt?]
    by_cases hc : sep = c
    · subst hc
      simp only [stripFront?, if_true, Option.some.injEq, Prod.mk.injEq]
      constructor
      · rintro ⟨rfl, rfl⟩
        simp
      · rintro ⟨hs, hsep⟩
        cases before with
        | nil => simpa using hs
        | cons b before =>
          rw [List.cons_append, List.cons.injEq] at hs
          exact absurd (hs.1 ▸ List.mem_cons_self) hsep
    · simp only [stripFront?, if_neg hc, Option.map_eq_some_iff, Prod.mk.injEq, Prod.exists]
      constructor
      · rintro ⟨b, a, hsplit, rfl, rfl⟩
        obtain ⟨rfl, hsep⟩ := ih.1 hsplit
        exact ⟨rfl, by simp [hc, hsep]⟩
      · rintro ⟨hs, hsep⟩
        cases before with
        | nil => exact absurd (List.cons.inj hs).1.symm hc
        | cons b before =>
          obtain ⟨rfl, rfl⟩ := List.cons.inj hs
          exact ⟨before, after, ih.2 ⟨rfl, fun h => hsep (List.mem_cons_of_mem _ h)⟩, rfl, rfl⟩

/-- **A stem is split at the first underscore after its front.** -/
theorem splitStem?_eq_some :
    splitStem? stem = some (type, name) ↔
      stem = "testsuite_" ++ type ++ "_" ++ name ∧ type ≠ "" ∧ '_' ∉ type.toList ∧ name ≠ "" := by
  have hstem : stem = "testsuite_" ++ type ++ "_" ++ name ↔
      stem.toList = "testsuite_".toList ++ (type.toList ++ '_' :: name.toList) := by
    rw [← String.toList_inj]
    simp
  rw [splitStem?, hstem]
  cases hfront : Text.stripFront? "testsuite_".toList stem.toList with
  | none =>
    have hnot : stem.toList ≠ "testsuite_".toList ++ (type.toList ++ '_' :: name.toList) := by
      intro h
      rw [Text.stripFront?_eq_some.2 h] at hfront
      cases hfront
    simp only [reduceCtorEq, false_iff]
    exact fun h => hnot h.1
  | some rest =>
    rw [Text.stripFront?_eq_some.1 hfront, List.append_cancel_left_eq]
    simp only
    cases hsplit : Text.splitAt? ['_'] rest with
    | none =>
      have hnot : ¬ (rest = type.toList ++ '_' :: name.toList ∧ '_' ∉ type.toList) := by
        intro h
        rw [Text.splitAt?_eq_some.2 h] at hsplit
        cases hsplit
      simp only [reduceCtorEq, false_iff]
      exact fun h => hnot ⟨h.1, h.2.2.1⟩
    | some parts =>
      obtain ⟨t, n⟩ := parts
      obtain ⟨hrest, hunderscore⟩ := Text.splitAt?_eq_some.1 hsplit
      simp only
      constructor
      · intro h
        split at h
        · cases h
        · rename_i hne
          cases h
          simp only [Bool.or_eq_true, List.isEmpty_iff, not_or] at hne
          rw [String.toList_ofList, String.toList_ofList]
          refine ⟨hrest, fun h => hne.1 ?_, hunderscore, fun h => hne.2 ?_⟩
          · simpa using congrArg String.toList h
          · simpa using congrArg String.toList h
      · rintro ⟨hsame, htype, hfree, hname⟩
        have hparts := Text.splitAt?_eq_some.2 ⟨hsame, hfree⟩
        rw [hsplit] at hparts
        cases hparts
        simp [htype, hname]

/-! ### Names -/

/-- The name of a file that holds a suite of the type. -/
def IsSuiteName (type name : String) : Prop :=
  ∃ stem ext t n, name = stem ++ "." ++ ext ∧ ext ∈ ["yaml", "yml", "json"] ∧
    stem = "testsuite_" ++ t ++ "_" ++ n ∧ t ≠ "" ∧ '_' ∉ t.toList ∧ n ≠ "" ∧
    (type = "all" ∨ type = t)

/-- **The two checks of a name are the grammar of names.** -/
theorem isSuitePath_and_hasType_iff (hname : Path.IsName name) :
    isSuitePath (Path.join dir name) = true ∧ hasType type (Path.join dir name) = true ↔
      IsSuiteName type name := by
  have hstem : Path.stem? (Path.join dir name) =
      some (String.ofList (Path.splitName name.toList).1) := by
    rw [Path.stem?, Path.name?_join dir hname]
    rfl
  have hextension : Path.extension? (Path.join dir name) =
      (Path.splitName name.toList).2.map String.ofList := by
    rw [Path.extension?, Path.name?_join dir hname]
    rfl
  rw [isSuitePath, hasType, hstem, hextension]
  cases hsplit : Path.splitName name.toList with
  | mk stem ext? =>
    simp only [Option.bind_some]
    constructor
    · rintro ⟨hsuite, htype⟩
      cases ext? with
      | none => simp at hsuite
      | some ext =>
        cases hparts : splitStem? (String.ofList stem) with
        | none => simp [hparts] at hsuite
        | some parts =>
          obtain ⟨t, n⟩ := parts
          obtain ⟨hstem, ht, hfree, hn⟩ := splitStem?_eq_some.1 hparts
          obtain ⟨-, -, hname⟩ := Path.splitName_eq_some.1 hsplit
          rw [hparts] at hsuite htype
          refine ⟨String.ofList stem, String.ofList ext, t, n, ?_, ?_, hstem, ht, hfree, hn, ?_⟩
          · rw [← String.toList_inj, hname]
            simp
          · simpa [suiteExtensions] using hsuite
          · simpa [allTypes] using htype
    · rintro ⟨stem', ext, t, n, rfl, hext, hstem, ht, hfree, hn, htype⟩
      have hne : stem'.toList ≠ [] := by
        rw [hstem]
        simp
      have hdot : '.' ∉ ext.toList := by
        simp only [List.mem_cons, List.not_mem_nil, or_false] at hext
        rcases hext with rfl | rfl | rfl <;> decide
      have hlast : Path.splitName (stem' ++ "." ++ ext).toList =
          (stem'.toList, some ext.toList) := Path.splitName_eq_some.2 ⟨hne, hdot, by simp⟩
      rw [hsplit] at hlast
      cases hlast
      have hparts : splitStem? (String.ofList stem'.toList) = some (t, n) := by
        rw [String.ofList_toList]
        exact splitStem?_eq_some.2 ⟨hstem, ht, hfree, hn⟩
      rw [hparts]
      refine ⟨?_, by simpa [allTypes] using htype⟩
      simpa [suiteExtensions] using hext

end SuiteRunner
