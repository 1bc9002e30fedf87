import Mathlib.Data.Char
import Mathlib.Data.List.Lex
import Mathlib.Data.List.Range
import SuiteRunner.Compare.Comparison

/-!
# Where two lists of lines differ

Two lists are compared position by position, up to the end of the longer one.  A line that is missing
differs from every line.

* `lineLe_iff_le` — lines are in the order of lists of characters;
* **`mergeSort_eq_iff_perm`** — sorted lists of lines are equal exactly for permutations;
* `Comparison.positions`, the positions at which two lists differ;
* **`Comparison.differencesFrom_eq`** — the differences of two lists are those at these positions;
* **`Comparison.holds_ofLines`** — a comparison holds exactly for equal lists;
* **`Comparison.ofLines_swap`** — it has its sides exchanged when the lists are.
-/

namespace SuiteRunner

/-! ### The order of lines -/

/-- Lines are in the order of lists of characters. -/
theorem lineLe_iff_le {s t : List Char} : lineLe s t = true ↔ s ≤ t := by
  rw [← not_lt]
  induction s generalizing t with
  | nil => simp [lineLe]
  | cons a s ih =>
    cases t with
    | nil => simp [lineLe]
    | cons b t =>
      rw [lineLe, List.cons_lt_cons_iff]
      by_cases hab : a = b
      · rw [if_pos hab, ih, hab]
        simp
      · rw [if_neg hab, decide_eq_true_eq]
        have hba : ¬ b = a := Ne.symm hab
        simp only [hba, false_and, or_false, not_lt]
        exact lt_iff_le_and_ne.trans (and_iff_left hab)

theorem pairwise_mergeSort_lineLe (ls : List (List Char)) :
    (ls.mergeSort lineLe).Pairwise (· ≤ ·) := by
  have trans : ∀ s t u : List Char, lineLe s t = true → lineLe t u = true → lineLe s u = true := by
    intro s t u hst htu
    rw [lineLe_iff_le] at hst htu ⊢
    exact hst.trans htu
  have total : ∀ s t : List Char, (lineLe s t || lineLe t s) = true := by
    intro s t
    rw [Bool.or_eq_true, lineLe_iff_le, lineLe_iff_le]
    exact le_total s t
  exact (List.pairwise_mergeSort trans total ls).imp lineLe_iff_le.1

/-- **Sorted lists of lines are equal exactly if the lists are permutations of each other.** -/
theorem mergeSort_eq_iff_perm {as bs : List (List Char)} :
    as.mergeSort lineLe = bs.mergeSort lineLe ↔ as.Perm bs := by
  have has := List.mergeSort_perm as lineLe
  have hbs := List.mergeSort_perm bs lineLe
  constructor
  · intro h
    rw [h] at has
    exact has.symm.trans hbs
  · intro h
    exact List.Perm.eq_of_pairwise (fun _ _ _ _ => le_antisymm)
      (pairwise_mergeSort_lineLe as) (pairwise_mergeSort_lineLe bs)
      (has.trans (h.trans hbs.symm))

/-! ### Exchanged sides -/

theorem pairUp_swap {α : Type} (as bs : List α) :
    pairUp bs as = (pairUp as bs).map Prod.swap := by
  fun_induction pairUp as bs with
  | case1 => rw [pairUp, List.map_nil]
  | case2 a as ih => rw [pairUp, ih, List.map_cons, Prod.swap_prod_mk]
  | case3 b bs ih => rw [pairUp, ih, List.map_cons, Prod.swap_prod_mk]
  | case4 a as b bs ih => rw [pairUp, ih, List.map_cons, Prod.swap_prod_mk]

/-- The difference seen from the other side. -/
def Difference.swap (d : Difference) : Difference := ⟨d.line, d.actual, d.expected⟩

namespace Comparison

/-- The comparison seen from the other side. -/
def swap (c : Comparison) : Comparison :=
  ⟨c.differences.map Difference.swap, c.total, c.actualLines, c.expectedLines⟩

theorem differencesFrom_swap (n : Nat) (ps : List (Option (List Char) × Option (List Char))) :
    differencesFrom n (ps.map Prod.swap) = (differencesFrom n ps).map Difference.swap := by
  induction ps generalizing n with
  | nil => rfl
  | cons p ps ih =>
    obtain ⟨a, e⟩ := p
    rw [List.map_cons, Prod.swap_prod_mk, differencesFrom, differencesFrom, ih]
    by_cases h : a = e
    · rw [if_pos h, if_pos h.symm]
    · rw [if_neg h, if_neg (Ne.symm h), List.map_cons]
      rfl

/-- **The comparison of exchanged lists has its sides exchanged.** -/
theorem ofLines_swap (actual expected : List (List Char)) :
    ofLines expected actual = (ofLines actual expected).swap := by
  simp only [ofLines, swap, pairUp_swap actual expected, differencesFrom_swap, List.map_take,
    List.length_map]

/-! ### Positions -/

/-- The positions at which two lists differ, counted from 0, up to the end of the longer one. -/
def positions (actual expected : List (List Char)) : List Nat :=
  (List.range (max actual.length expected.length)).filter fun i => actual[i]? ≠ expected[i]?

/-- The two sides at a position, with its number counted from `n`. -/
def differenceAt (n : Nat) (actual expected : List (List Char)) (i : Nat) : Difference :=
  ⟨n + i, expected[i]?, actual[i]?⟩

/-- The first position, and those of the rests. -/
theorem positions_eq_append {as es : List (List Char)} (h : as ≠ [] ∨ es ≠ []) :
    positions as es = (if as.head? = es.head? then [] else [0]) ++
      (positions as.tail es.tail).map (· + 1) := by
  have hlength : max as.length es.length = max as.tail.length es.tail.length + 1 := by
    have hpos : 0 < as.length ∨ 0 < es.length := by
      simpa only [List.length_pos_iff] using h
    simp only [List.length_tail]
    omega
  rw [positions, hlength, List.range_succ_eq_map, List.filter_cons, List.filter_map,
    List.head?_eq_getElem?, List.head?_eq_getElem?, positions]
  simp only [List.getElem?_tail]
  by_cases h0 : as[0]? = es[0]?
  · rw [if_neg (by simp [h0]), if_pos h0]
    rfl
  · rw [if_pos (by simp [h0]), if_neg h0]
    rfl

/-- The difference at the first position, and those of the rests. -/
theorem map_positions (n : Nat) {as es : List (List Char)} (h : as ≠ [] ∨ es ≠ []) :
    (positions as es).map (differenceAt n as es) =
      (if as.head? = es.head? then [] else [⟨n, es.head?, as.head?⟩]) ++
        (positions as.tail es.tail).map (differenceAt (n + 1) as.tail es.tail) := by
  have succ : ∀ i, differenceAt n as es (i + 1) = differenceAt (n + 1) as.tail es.tail i := by
    intro i
    simp only [differenceAt, List.getElem?_tail]
    rw [show n + (i + 1) = n + 1 + i from by omega]
  rw [positions_eq_append h, List.map_append, List.map_map, List.head?_eq_getElem?,
    List.head?_eq_getElem?]
  congr 1
  · split <;> rfl
  · exact List.map_congr_left fun i _ => succ i

/-- **The differences of two lists are those at the positions at which they differ.** -/
theorem differencesFrom_eq (n : Nat) (actual expected : List (List Char)) :
    differencesFrom n (pairUp actual expected) =
      (positions actual expected).map (differenceAt n actual expected) := by
  fun_induction pairUp actual expected generalizing n with
  | case1 => rfl
  | case2 a as ih =>
    rw [map_positions n (.inl (List.cons_ne_nil a as)), differencesFrom, ih]
    rfl
  | case3 e es ih =>
    rw [map_positions n (.inr (List.cons_ne_nil e es)), differencesFrom, ih]
    rfl
  | case4 a as e es ih =>
    rw [map_positions n (.inl (List.cons_ne_nil a as)), differencesFrom, ih, List.head?_cons,
      List.head?_cons]
    by_cases h : a = e
    · rw [if_pos (congrArg some h), if_pos (congrArg some h)]
      rfl
    · rw [if_neg (by simpa using h), if_neg (by simpa using h)]
      rfl

theorem total_ofLines (actual expected : List (List Char)) :
    (ofLines actual expected).total = (positions actual expected).length := by
  simp only [ofLines, differencesFrom_eq, List.length_map]

theorem differences_ofLines (actual expected : List (List Char)) :
    (ofLines actual expected).differences =
      ((positions actual expected).take listedLimit).map (differenceAt 1 actual expected) := by
  simp only [ofLines, differencesFrom_eq, List.map_take]

/-- **A comparison holds exactly for equal lists.** -/
theorem holds_ofLines {actual expected : List (List Char)} :
    (ofLines actual expected).holds = true ↔ actual = expected := by
  rw [holds, beq_iff_eq, total_ofLines, List.length_eq_zero_iff, positions, List.filter_eq_nil_iff]
  constructor
  · intro h
    apply List.ext_getElem?
    intro i
    by_cases hi : i < max actual.length expected.length
    · simpa using h i (List.mem_range.2 hi)
    · -- Both lists have ended.
      rw [List.getElem?_eq_none (by omega), List.getElem?_eq_none (by omega)]
  · rintro rfl i -
    simp

end Comparison

end SuiteRunner
