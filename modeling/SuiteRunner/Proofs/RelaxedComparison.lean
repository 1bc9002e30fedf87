import SuiteRunner.Proofs.FileChanges
import SuiteRunner.Proofs.FilteredAgain
import SuiteRunner.Proofs.LineEnds

/-!
# Filters relax a comparison

Texts with equal lines have equal lines after filtering, if the filters drop the blank lines at the
end of a text, which the exact mode does not look at.  Every filter leaves an empty line empty, but
for one that replaces the empty text.

* `Filter.Inserts` and `LineFilter.Inserts`, the filters that put a text into every line;
* `LineFilter.run_empty` — the step: another filter drops an empty line or leaves it empty;
* `LineFilter.runAll_empty` — the run: so do such filters one after another;
* `FilterSet.apply_eq_of_dropsBlank` — filters that drop blank lines see the trimmed lines of a text
  only up to the last one that is not blank;
* **`FilterSet.relaxes_iff`** — filters relax the exact comparison exactly if they drop blank lines;
* **`filtered_of_exact`** — filters that insert no text relax it.
-/

namespace SuiteRunner

open Text

/-! ### Empty lines -/

/-- There is nothing to remove from an empty text. -/
theorem Regex.Program.removeFrom_nil (p : Program) (fuel : Nat) (last : Option Nat)
    (position : Nat) (before : Option Char) : p.removeFrom last position before fuel [] = [] := by
  induction fuel generalizing last position before with
  | zero => rfl
  | succ fuel ih =>
    rw [removeFrom]
    split
    · rfl
    · split
      · rfl
      · simp [ih]

/-- The filter puts a text into every line: it replaces the empty text. -/
def Filter.Inserts : Filter → Prop
  | replace old _ => old = ""
  | startsWith _ | contains _ | ignoreAllAfter _ | removeRegex _ | checkFirstLine _ => False

instance (f : Filter) : Decidable f.Inserts :=
  match f with
  | .replace old _ => instDecidableEqString old ""
  | .startsWith _ | .contains _ | .ignoreAllAfter _ | .removeRegex _ | .checkFirstLine _ =>
    instDecidableFalse

namespace LineFilter

variable {f : LineFilter} {fs : List LineFilter} {first : Bool} {next last : List Char}

/-- The filter puts a text into every line: it replaces the empty text. -/
def Inserts : LineFilter → Prop
  | replace old _ => old = []
  | startsWith _ | contains _ | ignoreAllAfter _ | removeRegex _ | checkFirstLine _ => False

/-- **The step**: a filter that inserts no text drops an empty line or leaves it empty. -/
theorem run_empty (inserts : ¬ f.Inserts) (h : f.run first [] = some next) : next = [] := by
  cases f with
  | startsWith t | contains t | checkFirstLine t =>
    rw [run, Option.ite_none_left_eq_some] at h
    exact (Option.some.inj h.2).symm
  | ignoreAllAfter m =>
    cases h
    exact List.prefix_nil.1 (cutAfter_prefix_self m [])
  | removeRegex m =>
    cases h
    exact m.program.removeFrom_nil _ _ _ _
  | replace old new =>
    cases h
    cases old with
    | nil => exact absurd rfl inserts
    | cons a old => rw [replaceAll, replaceFrom]

/-- **The run**: so do such filters one after another. -/
theorem runAll_empty (inserts : ∀ f ∈ fs, ¬ f.Inserts) (h : runAll first fs [] = some last) :
    last = [] := by
  induction fs with
  | nil => exact (Option.some.inj h).symm
  | cons f fs ih =>
    obtain ⟨hf, hfs⟩ := List.forall_mem_cons.1 inserts
    obtain ⟨next, hnext, hrest⟩ := Option.bind_eq_some_iff.1 h
    rw [run_empty hf hnext] at hrest
    exact ih hfs hrest

end LineFilter

/-! ### Blank lines -/

namespace FilterSet

variable {filters : FilterSet} {declared : List Filter} {text : List Char}

/-- The filters drop blank lines, the first line and the later ones. -/
def DropsBlank (filters : FilterSet) : Prop := ∀ first, filters.applyLine first [] = none

theorem dropsBlank_of_inserts (inserts : ∀ f ∈ filters, ¬ f.Inserts) : filters.DropsBlank := by
  intro first
  rw [Option.eq_none_iff_forall_ne_some]
  intro out h
  obtain ⟨last, hlast, rfl, hne⟩ := applyLine_eq_some.1 h
  rw [LineFilter.runAll_empty inserts hlast] at hne
  exact hne rfl

/-- A filter that is ready inserts a text exactly if it was declared so. -/
theorem inserts_of_compile {f : Filter} {g : LineFilter} (h : f.compile = .ok g) :
    g.Inserts ↔ f.Inserts := by
  cases f with
  | startsWith t | contains t | ignoreAllAfter m | checkFirstLine t =>
    cases h
    exact Iff.rfl
  | replace old new =>
    cases h
    exact String.toList_eq_nil_iff
  | removeRegex r =>
    obtain ⟨m, -, rfl⟩ := map_eq_ok.1 h
    exact Iff.rfl

/-- Filters can be made ready exactly if each of them can be. -/
theorem compile_cons_eq_ok {f : Filter} : compile (f :: declared) = .ok filters ↔
    ∃ g gs, f.compile = .ok g ∧ compile declared = .ok gs ∧ filters = g :: gs := by
  cases hf : f.compile with
  | error e => simp [compile, hf]
  | ok g =>
    simp only [compile, hf, map_eq_ok]
    simp [eq_comm]

theorem inserts_of_compileAll (inserts : ∀ f ∈ declared, ¬ f.Inserts)
    (h : compile declared = .ok filters) : ∀ g ∈ filters, ¬ g.Inserts := by
  induction declared generalizing filters with
  | nil =>
    cases h
    simp
  | cons f declared ih =>
    obtain ⟨hf, hrest⟩ := List.forall_mem_cons.1 inserts
    obtain ⟨g, gs, hg, hgs, rfl⟩ := compile_cons_eq_ok.1 h
    exact List.forall_mem_cons.2 ⟨mt (inserts_of_compile hg).1 hf, ih hrest hgs⟩

/-- **Filters that drop blank lines** see the trimmed lines of a text only up to the last one that is
not blank. -/
theorem apply_eq_of_dropsBlank (h : filters.DropsBlank) (text : List Char) :
    filters.apply text =
      (normalize text).zipIdx.filterMap fun l => filters.applyLine (l.2 == 0) l.1 := by
  have hblank : ∀ l ∈ (List.replicate (blanksAtEnd text) []).zipIdx (normalize text).length,
      filters.applyLine (l.2 == 0) l.1 = none := by
    intro l hl
    rw [List.eq_of_mem_replicate (List.fst_mem_of_mem_zipIdx hl)]
    exact h _
  rw [apply_eq_trimmed, ← normalize_append, List.zipIdx_append, List.filterMap_append,
    Nat.zero_add, List.filterMap_eq_nil_iff.2 hblank, List.append_nil]

/-- **Filters relax the exact comparison exactly if they drop blank lines.** -/
theorem relaxes_iff {others : FilterSet} :
    (∀ actual expected, (compareTexts .exact others actual expected).holds = true →
      (compareTexts .filtered filters actual expected).holds = true) ↔ filters.DropsBlank := by
  have hexact : ∀ s t, (compareTexts .exact others s t).holds = true ↔ normalize s = normalize t :=
    fun _ _ => Comparison.holds_ofLines
  have hfiltered : ∀ s t, (compareTexts .filtered filters s t).holds = true ↔
      filters.apply s = filters.apply t := fun _ _ => Comparison.holds_ofLines
  simp only [hexact, hfiltered]
  constructor
  · -- A blank line that is left tells a text with it from one without it.
    intro h first
    cases first with
    | true =>
      have hone : (filters.applyLine true []).toList ++ [] = [] := h ['\n'] [] rfl
      rw [List.append_nil] at hone
      exact Option.toList_eq_nil_iff.1 hone
    | false =>
      have htwo := h ['\n', '\n'] ['\n'] rfl
      have hlong : filters.apply ['\n', '\n'] =
          (filters.applyLine true []).toList ++ [[]].filterMap (filters.applyLine false) := rfl
      have hshort : filters.apply ['\n'] =
          (filters.applyLine true []).toList ++ [].filterMap (filters.applyLine false) := rfl
      rw [hlong, hshort, List.append_cancel_left_eq] at htwo
      simpa using List.filterMap_eq_nil_iff.1 htwo
  · intro hblank s t hlines
    rw [apply_eq_of_dropsBlank hblank, apply_eq_of_dropsBlank hblank, hlines]

end FilterSet

/-- **Filters that insert no text only relax a comparison**: texts that match in the exact mode match
after filtering. -/
theorem filtered_of_exact {declared : List Filter} {filters others : FilterSet}
    (inserts : ∀ f ∈ declared, ¬ f.Inserts) (compiled : FilterSet.compile declared = .ok filters)
    {actual expected : List Char}
    (exact : (compareTexts .exact others actual expected).holds = true) :
    (compareTexts .filtered filters actual expected).holds = true := by
  have hinserts := FilterSet.inserts_of_compileAll inserts compiled
  have hblank := FilterSet.dropsBlank_of_inserts hinserts
  exact FilterSet.relaxes_iff.2 hblank actual expected exact

/-- Filters of all kinds. -/
def sixFilters : List Filter :=
  [.checkFirstLine "#", .removeRegex " *[0-9]+ms", .startsWith "WARNING:", .replace "/tmp" "<tmp>",
    .ignoreAllAfter "done", .contains "MPI"]

/-- An output with white space at the ends of lines, and blank lines at its end. -/
def looseOutput : List Char := "# run\n/tmp/a 12ms\n\n done: 7ms\t\n \r\n".toList

/-- Its reference, which has other line ends and no blank lines. -/
def tightReference : List Char := "# run\r\n/tmp/a 12ms\n\n done: 7ms".toList

theorem sixFilters_relax :
    (∀ f ∈ sixFilters, ¬ f.Inserts) ∧
    ∃ filters, FilterSet.compile sixFilters = .ok filters ∧
      (compareTexts .exact [] looseOutput tightReference).holds = true ∧
      (compareTexts .filtered filters looseOutput tightReference).holds = true ∧
      filters.apply looseOutput = ["<tmp>/a".toList, " done".toList] := by
  have inserts : ∀ f ∈ sixFilters, ¬ f.Inserts := by decide
  have hready : (FilterSet.compile sixFilters).toOption.isSome = true := by decide +kernel
  obtain ⟨filters, hfilters⟩ := Option.isSome_iff_exists.1 hready
  have hlines : (FilterSet.compile sixFilters).toOption.map (·.apply looseOutput) =
      some ["<tmp>/a".toList, " done".toList] := by decide +kernel
  rw [hfilters, Option.map_some, Option.some.injEq] at hlines
  have compiled := toOption_eq_some.1 hfilters
  have exact : (compareTexts .exact [] looseOutput tightReference).holds = true := by cbv
  exact ⟨inserts, filters, compiled, exact, filtered_of_exact inserts compiled exact, hlines⟩

/-- A filter that replaces the empty text does not relax the comparison: it fills the blank line. -/
example : (compareTexts .exact [] ['a', '\n', '\n'] ['a']).holds = true ∧
    (compareTexts .filtered [.replace [] ['x']] ['a', '\n', '\n'] ['a']).holds = false := by
  exact ⟨by cbv, by cbv⟩

end SuiteRunner
