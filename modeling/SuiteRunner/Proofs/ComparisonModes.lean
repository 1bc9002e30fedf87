import Mathlib.Data.List.DropRight
import Mathlib.Data.List.Permutation
import SuiteRunner.Proofs.Differences

/-!
# What the modes of a comparison decide

A mode says which lines of a text are compared: the lines trimmed at their ends, without the blank
ones at the end of the text, or the same lines sorted, or the lines that the filters leave.

* `TrimmedLines` and `trimmedLines_iff` — a text has one list of such lines, which is `normalize`;
* `IsPrepared` and **`isPrepared_iff`** — the lines that a mode compares;
* **`compareTexts_decides`** — for all texts and filters, what each mode decides, which differences
  it counts and lists, and what becomes of them when the texts are exchanged;
* `blanksAtEnd`, how many lines at the end of a text are blank;
* **`sorted_holds_iff_of_perm`** — in the sorted mode the lines of both texts may be put in any
  order that leaves as many blank lines at the end;
* `movedBlank_differs`, a blank line that is moved to another place.
-/

namespace SuiteRunner

open Text

/-! ### Blank lines at the end -/

section TrailingBlanks

variable {ls : List (List Char)}

/-- The number of empty lines at the end of a list. -/
def trailingBlanks (ls : List (List Char)) : Nat := (ls.rtakeWhile List.isEmpty).length

theorem dropTrailingBlanks_append (ls : List (List Char)) :
    dropTrailingBlanks ls ++ List.replicate (trailingBlanks ls) [] = ls := by
  have blank : ls.rtakeWhile List.isEmpty = List.replicate (trailingBlanks ls) [] := by
    refine List.eq_replicate_of_mem fun l hl => ?_
    exact List.isEmpty_iff.1 (List.mem_rtakeWhile_imp hl)
  rw [← blank]
  exact List.rdropWhile_append_rtakeWhile

theorem getLast?_dropTrailingBlanks (ls : List (List Char)) :
    (dropTrailingBlanks ls).getLast? ≠ some [] := by
  intro h
  have hne : dropTrailingBlanks ls ≠ [] := by
    intro hnil
    rw [hnil] at h
    cases h
  have hlast := List.rdropWhile_last_not List.isEmpty ls hne
  rw [List.getLast?_eq_getLast_of_ne_nil hne, Option.some.injEq] at h
  apply hlast
  rw [List.isEmpty_iff]
  exact h

/-- Lines that do not end with a blank one are what is left when blank ones come after them. -/
theorem dropTrailingBlanks_append_replicate (h : ls.getLast? ≠ some []) (k : Nat) :
    dropTrailingBlanks (ls ++ List.replicate k []) = ls := by
  induction k with
  | zero =>
    rw [List.replicate_zero, List.append_nil]
    refine List.rdropWhile_eq_self_iff.2 fun hne hlast => h ?_
    rw [List.getLast?_eq_getLast_of_ne_nil hne, List.isEmpty_iff.1 hlast]
  | succ k ih =>
    rw [List.replicate_succ', ← List.append_assoc]
    exact (List.rdropWhile_concat_pos List.isEmpty _ [] rfl).trans ih

end TrailingBlanks

/-- The list has the lines of a text, trimmed at their ends, up to the last one that is not blank. -/
def TrimmedLines (text : List Char) (ls : List (List Char)) : Prop :=
  (∃ k, (lines text).map trimEnd = ls ++ List.replicate k []) ∧ ls.getLast? ≠ some []

/-- **A text has one list of trimmed lines.** -/
theorem trimmedLines_iff {text : List Char} {ls : List (List Char)} :
    TrimmedLines text ls ↔ ls = normalize text := by
  constructor
  · rintro ⟨⟨k, hk⟩, hlast⟩
    rw [normalize, hk, dropTrailingBlanks_append_replicate hlast]
  · rintro rfl
    exact ⟨⟨_, (dropTrailingBlanks_append _).symm⟩, getLast?_dropTrailingBlanks _⟩

/-! ### Prepared lines -/

/-- Every line is filtered on its own; the filters are told which one is the first. -/
theorem FilterSet.apply_eq_filterMap (filters : FilterSet) (text : List Char) :
    filters.apply text =
      (lines text).zipIdx.filterMap fun l => filters.applyLine (l.2 == 0) l.1 := by
  rw [FilterSet.apply]
  cases lines text with
  | nil => rfl
  | cons line rest =>
    have later : ∀ (ls : List (List Char)) (n : Nat),
        (ls.zipIdx (n + 1)).filterMap (fun l => filters.applyLine (l.2 == 0) l.1) =
          ls.filterMap (filters.applyLine false) := by
      intro ls
      induction ls with
      | nil => intro n; rfl
      | cons l ls ih =>
        intro n
        rw [List.zipIdx_cons, List.filterMap_cons, List.filterMap_cons, ih]
        rfl
    rw [List.zipIdx_cons, List.filterMap_cons, later]
    show (filters.applyLine true line).toList ++ rest.filterMap (filters.applyLine false) = _
    simp only [beq_self_eq_true]
    cases filters.applyLine true line <;> rfl

/-- The list has the lines of a text that a mode compares. -/
def IsPrepared (mode : CompareMode) (filters : FilterSet) (text : List Char)
    (ls : List (List Char)) : Prop :=
  match mode with
  | .exact => TrimmedLines text ls
  | .sorted => ls.Pairwise (· ≤ ·) ∧ ∃ trimmed, TrimmedLines text trimmed ∧ ls.Perm trimmed
  | .filtered => ls = (lines text).zipIdx.filterMap fun l => filters.applyLine (l.2 == 0) l.1
  | .none => ls = []

/-- **Every mode prepares a text in one way.** -/
theorem isPrepared_iff {mode : CompareMode} {filters : FilterSet} {text : List Char}
    {ls : List (List Char)} :
    IsPrepared mode filters text ls ↔ ls = prepare mode filters text := by
  cases mode with
  | exact => exact trimmedLines_iff
  | sorted =>
    have hsort := pairwise_mergeSort_lineLe (normalize text)
    have hperm := List.mergeSort_perm (normalize text) lineLe
    constructor
    · rintro ⟨sorted, trimmed, htrimmed, h⟩
      rw [trimmedLines_iff.1 htrimmed] at h
      exact List.Perm.eq_of_pairwise (fun _ _ _ _ => le_antisymm) sorted hsort
        (h.trans hperm.symm)
    · rintro rfl
      exact ⟨hsort, _, trimmedLines_iff.2 rfl, hperm⟩
  | filtered => rw [prepare, FilterSet.apply_eq_filterMap]; rfl
  | none => rfl

/-! ### What is decided -/

/-- What a comparison of two lists of lines says of them. -/
structure Comparison.Reports (c : Comparison) (actual expected : List (List Char)) : Prop where
  /-- The positions are counted at which the lists differ. -/
  total : c.total = (positions actual expected).length
  /-- The first twenty of them are listed in order, with the numbers of the lines from 1 on. -/
  listed : c.differences =
    ((positions actual expected).take 20).map fun i => ⟨i + 1, expected[i]?, actual[i]?⟩
  expectedLines : c.expectedLines = expected.length
  actualLines : c.actualLines = actual.length

theorem Comparison.reports_ofLines (actual expected : List (List Char)) :
    (ofLines actual expected).Reports actual expected where
  total := total_ofLines actual expected
  listed := by
    rw [differences_ofLines]
    refine List.map_congr_left fun i _ => ?_
    rw [differenceAt, Nat.add_comm]
  expectedLines := rfl
  actualLines := rfl

theorem holds_sorted_iff {filters : FilterSet} {actual expected : List Char} :
    (compareTexts .sorted filters actual expected).holds = true ↔
      (normalize actual).Perm (normalize expected) := by
  rw [compareTexts, Comparison.holds_ofLines]
  exact mergeSort_eq_iff_perm

/-- **What a comparison decides.**  The exact mode asks for equal trimmed lines, the sorted mode for
the same lines in any order, the filtered mode for equal lines after filtering, and the last mode for
nothing.  In every mode the differing positions of the prepared lists are counted, the first ones
are listed, and exchanged texts exchange the sides. -/
theorem compareTexts_decides (filters : FilterSet) (actual expected : List Char) :
    (∀ text ls, TrimmedLines text ls ↔ ls = normalize text) ∧
    ((compareTexts .exact filters actual expected).holds = true ↔
      normalize actual = normalize expected) ∧
    ((compareTexts .sorted filters actual expected).holds = true ↔
      (normalize actual).Perm (normalize expected)) ∧
    ((compareTexts .filtered filters actual expected).holds = true ↔
      filters.apply actual = filters.apply expected) ∧
    (compareTexts .none filters actual expected).holds = true ∧
    ∀ mode,
      (∀ text ls, IsPrepared mode filters text ls ↔ ls = prepare mode filters text) ∧
      (compareTexts mode filters actual expected).Reports
        (prepare mode filters actual) (prepare mode filters expected) ∧
      compareTexts mode filters expected actual =
        (compareTexts mode filters actual expected).swap :=
  ⟨fun _ _ => trimmedLines_iff, Comparison.holds_ofLines, holds_sorted_iff,
    Comparison.holds_ofLines, Comparison.holds_ofLines.2 rfl, fun _ =>
      ⟨fun _ _ => isPrepared_iff, Comparison.reports_ofLines _ _, Comparison.ofLines_swap _ _⟩⟩

/-! ### Lines in another order -/

/-- The number of lines at the end of a text that are blank. -/
def blanksAtEnd (text : List Char) : Nat := trailingBlanks ((lines text).map trimEnd)

theorem normalize_append (text : List Char) :
    normalize text ++ List.replicate (blanksAtEnd text) [] = (lines text).map trimEnd :=
  dropTrailingBlanks_append _

/-- The trimmed lines of a text whose lines were put in another order. -/
theorem normalize_append_perm {text text' : List Char} (h : (lines text').Perm (lines text)) :
    (normalize text' ++ List.replicate (blanksAtEnd text') []).Perm
      (normalize text ++ List.replicate (blanksAtEnd text) []) := by
  rw [normalize_append, normalize_append]
  exact h.map trimEnd

theorem normalize_perm {text text' : List Char} (h : (lines text').Perm (lines text))
    (blanks : blanksAtEnd text' = blanksAtEnd text) : (normalize text').Perm (normalize text) := by
  have hperm := normalize_append_perm h
  rw [blanks] at hperm
  exact (List.perm_append_right_iff _).1 hperm

/-- **In the sorted mode the order of the lines does not matter, up to the blank lines at the end.**
The lines of both texts may be put in any order that leaves as many blank lines at the end; and a
comparison that holds goes on to hold exactly if the blank lines that come to the end, or leave it,
are as many in both texts. -/
theorem sorted_holds_iff_of_perm (filters : FilterSet)
    {actual actual' expected expected' : List Char}
    (ha : (lines actual').Perm (lines actual)) (he : (lines expected').Perm (lines expected)) :
    (blanksAtEnd actual' = blanksAtEnd actual → blanksAtEnd expected' = blanksAtEnd expected →
      compareTexts .sorted filters actual' expected' =
        compareTexts .sorted filters actual expected) ∧
    ((compareTexts .sorted filters actual expected).holds = true →
      ((compareTexts .sorted filters actual' expected').holds = true ↔
        blanksAtEnd actual' + blanksAtEnd expected =
          blanksAtEnd expected' + blanksAtEnd actual)) := by
  constructor
  · intro hactual hexpected
    rw [compareTexts, compareTexts, prepare, prepare, prepare, prepare,
      mergeSort_eq_iff_perm.2 (normalize_perm ha hactual),
      mergeSort_eq_iff_perm.2 (normalize_perm he hexpected)]
  · rw [holds_sorted_iff, holds_sorted_iff]
    intro hmatch
    have hactual := normalize_append_perm ha
    have hexpected := normalize_append_perm he
    constructor
    · -- The numbers of lines are the same all along.
      intro hmatch'
      have h1 := hactual.length_eq
      have h2 := hexpected.length_eq
      have h3 := hmatch.length_eq
      have h4 := hmatch'.length_eq
      simp only [List.length_append, List.length_replicate] at h1 h2
      omega
    · -- With blank lines added to both, the lists are those of the first comparison.
      intro hblanks
      have hleft := hactual.append_right (List.replicate (blanksAtEnd expected) ([] : List Char))
      have hright := hexpected.append_right (List.replicate (blanksAtEnd actual) ([] : List Char))
      rw [List.append_assoc, List.append_assoc, List.replicate_append_replicate,
        List.replicate_append_replicate] at hleft hright
      rw [hblanks] at hleft
      rw [Nat.add_comm (blanksAtEnd expected)] at hright
      refine (List.perm_append_right_iff _).1 (hleft.trans ?_)
      exact (hmatch.append_right _).trans hright.symm

theorem shuffledLines_hold :
    (lines "\na\nb".toList).Perm (lines "b\n\na".toList) ∧
    (lines "b\na\n\n".toList).Perm (lines "a\nb\n\n".toList) ∧
    compareTexts .sorted [] "\na\nb".toList "b\na\n\n".toList =
      compareTexts .sorted [] "b\n\na".toList "a\nb\n\n".toList ∧
    (compareTexts .sorted [] "\na\nb".toList "b\na\n\n".toList).total = 3 := by
  have ha : (lines "\na\nb".toList).Perm (lines "b\n\na".toList) := by decide +kernel
  have he : (lines "b\na\n\n".toList).Perm (lines "a\nb\n\n".toList) := by decide +kernel
  refine ⟨ha, he, (sorted_holds_iff_of_perm [] ha he).1 (by decide +kernel) (by decide +kernel), ?_⟩
  cbv

/-- A text matches itself, but not after its blank line was moved to the front. -/
theorem movedBlank_differs :
    (lines "\na\n".toList).Perm (lines "a\n\n".toList) ∧
    (compareTexts .sorted [] "a\n\n".toList "a\n\n".toList).holds = true ∧
    (compareTexts .sorted [] "\na\n".toList "a\n\n".toList).holds = false ∧
    (compareTexts .sorted [] "\na\n".toList "a\n\n".toList).total = 2 := by
  refine ⟨by decide +kernel, by cbv, by cbv, by cbv⟩

end SuiteRunner
