import SuiteRunner.Proofs.ComparisonModes
import SuiteRunner.Proofs.TextLines
import SuiteRunner.Proofs.Verdicts

/-!
# Filtered lines are filtered again

Some filters drop lines, or cut them after a marker.  What they leave of a line is the front of it,
and so the front of what every one of them was given: it has no text in it that the line has not,
and no marker in it comes earlier.

* `Filter.Prunes` and `LineFilter.Prunes`, the filters that drop lines or cut them;
* `LineFilter.cutAfter_of_prefix` — what is left of a line that was cut is not cut again;
* **`LineFilter.run_of_prefix`** — the step: a filter keeps the front of what it has left;
* **`LineFilter.runAll_of_prefix`** — the run: so do filters one after another;
* **`filtered_again`** — filtered lines are left as they are, and an output matches a reference that
  was made of them.
-/

namespace SuiteRunner

open Text

/-! ### Markers -/

namespace Text

variable {p s before after : List Char}

/-- A text is split at an occurrence. -/
theorem eq_of_splitAt? (h : splitAt? p s = some (before, after)) : s = before ++ p ++ after := by
  induction s generalizing before with
  | nil =>
    rw [splitAt?, Option.ite_none_right_eq_some] at h
    obtain ⟨hp, h⟩ := h
    cases h
    rw [List.isEmpty_iff.1 hp]
    rfl
  | cons c s ih =>
    rw [splitAt?] at h
    split at h
    · rename_i rest hfront
      cases h
      exact stripFront?_eq_some.1 hfront
    · obtain ⟨⟨front, back⟩, hsplit, hpair⟩ := Option.map_eq_some_iff.1 h
      cases hpair
      rw [ih hsplit]
      rfl

/-- **No occurrence comes before the one at which a text is split.** -/
theorem length_le_of_splitAt? (h : splitAt? p s = some (before, after)) {front back : List Char}
    (occurs : s = front ++ p ++ back) : before.length ≤ front.length := by
  induction s generalizing before front with
  | nil =>
    rw [splitAt?, Option.ite_none_right_eq_some] at h
    cases h.2
    exact Nat.zero_le _
  | cons c s ih =>
    rw [splitAt?] at h
    split at h
    · cases h
      exact Nat.zero_le _
    · rename_i hfront
      obtain ⟨⟨before, rest⟩, hsplit, hpair⟩ := Option.map_eq_some_iff.1 h
      cases hpair
      cases front with
      | nil =>
        rw [List.nil_append] at occurs
        rw [stripFront?_eq_some.2 occurs] at hfront
        cases hfront
      | cons d front =>
        have hrest : s = front ++ p ++ back := (List.cons.inj occurs).2
        simpa using ih hsplit hrest

theorem startsWith_iff : startsWith s p = true ↔ p <+: s := by
  rw [startsWith, Option.isSome_iff_exists]
  constructor
  · rintro ⟨rest, hrest⟩
    exact ⟨rest, (stripFront?_eq_some.1 hrest).symm⟩
  · rintro ⟨rest, hrest⟩
    exact ⟨rest, stripFront?_eq_some.2 hrest.symm⟩

end Text

/-! ### Filters that drop lines or cut them -/

/-- The filter drops lines by their front or by a part of them, or cuts them after a marker. -/
def Filter.Prunes : Filter → Prop
  | startsWith _ | contains _ | ignoreAllAfter _ => True
  | removeRegex _ | replace _ _ | checkFirstLine _ => False

instance (f : Filter) : Decidable f.Prunes := by
  cases f <;> rw [Filter.Prunes] <;> infer_instance

namespace LineFilter

variable {f : LineFilter} {fs : List LineFilter} {first again : Bool}
  {marker line next last out : List Char}

/-- The filter drops lines by their front or by a part of them, or cuts them after a marker. -/
def Prunes : LineFilter → Prop
  | startsWith _ | contains _ | ignoreAllAfter _ => True
  | removeRegex _ | replace _ _ | checkFirstLine _ => False

theorem cutAfter_prefix_self (marker line : List Char) : cutAfter marker line <+: line := by
  rw [cutAfter]
  split
  · exact List.prefix_rfl
  · rename_i before after hsplit
    exact ⟨after, (eq_of_splitAt? hsplit).symm⟩

/-- **What is left of a line that was cut is not cut again**, and neither is the front of it. -/
theorem cutAfter_of_prefix (h : out <+: cutAfter marker line) : cutAfter marker out = out := by
  cases hout : splitAt? marker out with
  | none => rw [cutAfter, hout]
  | some found =>
    obtain ⟨before, after⟩ := found
    have houtSplit := eq_of_splitAt? hout
    -- The marker is in the line, too, where it is in the front of the line.
    obtain ⟨rest, hrest⟩ := h.trans (cutAfter_prefix_self marker line)
    have hoccurs : line = before ++ marker ++ (after ++ rest) := by
      rw [← hrest, houtSplit, List.append_assoc _ after rest]
    have hfound : Text.contains line marker = true :=
      contains_iff.2 ⟨before, after ++ rest, hoccurs.symm⟩
    obtain ⟨⟨front, back⟩, hline⟩ := Option.isSome_iff_exists.1 hfound
    rw [cutAfter, hline] at h
    -- The line was cut there or earlier, so nothing comes after the marker.
    have hearlier := length_le_of_splitAt? hline hoccurs
    have hlength := h.length_le
    have hafter : after = [] := by
      rw [houtSplit] at hlength
      simp only [List.length_append] at hlength
      exact List.eq_nil_of_length_eq_zero (by omega)
    rw [cutAfter, hout, houtSplit, hafter, List.append_nil]

/-- What a filter leaves of a line is the front of it. -/
theorem prefix_of_run (prunes : f.Prunes) (h : f.run first line = some next) : next <+: line := by
  cases f with
  | startsWith t | contains t =>
    rw [run, Option.ite_none_left_eq_some] at h
    cases h.2
    exact List.prefix_rfl
  | ignoreAllAfter m =>
    cases h
    exact cutAfter_prefix_self m line
  | removeRegex m | replace old new | checkFirstLine t => exact absurd prunes id

/-- **The step**: a filter keeps the front of what it has left. -/
theorem run_of_prefix (prunes : f.Prunes) (h : f.run first line = some next) (hout : out <+: next) :
    f.run again out = some out := by
  cases f with
  | startsWith t =>
    rw [run, Option.ite_none_left_eq_some] at h
    cases h.2
    rw [run, if_neg]
    exact fun hfound => h.1 (startsWith_iff.2 ((startsWith_iff.1 hfound).trans hout))
  | contains t =>
    rw [run, Option.ite_none_left_eq_some] at h
    cases h.2
    rw [run, if_neg]
    exact fun hfound => h.1 (contains_iff.2 ((contains_iff.1 hfound).trans hout.isInfix))
  | ignoreAllAfter m =>
    cases h
    rw [run, cutAfter_of_prefix hout]
  | removeRegex m | replace old new | checkFirstLine t => exact absurd prunes id

/-- **The run**: what filters leave of a line one after another is the front of it, and they keep
the front of what they have left. -/
theorem runAll_of_prefix (prunes : ∀ f ∈ fs, f.Prunes) (h : runAll first fs line = some last) :
    last <+: line ∧ ∀ again out, out <+: last → runAll again fs out = some out := by
  induction fs generalizing line with
  | nil =>
    cases h
    exact ⟨List.prefix_rfl, fun _ _ _ => rfl⟩
  | cons f fs ih =>
    obtain ⟨hf, hfs⟩ := List.forall_mem_cons.1 prunes
    obtain ⟨next, hnext, hrest⟩ := Option.bind_eq_some_iff.1 h
    obtain ⟨hlast, hkept⟩ := ih hfs hrest
    refine ⟨hlast.trans (prefix_of_run hf hnext), fun again out hout => ?_⟩
    rw [runAll, run_of_prefix hf hnext (hout.trans hlast), Option.bind_some]
    exact hkept again out hout

end LineFilter

/-! ### Lines -/

namespace FilterSet

variable {filters : FilterSet} {first again : Bool} {line out text : List Char}

theorem applyLine_eq_some : filters.applyLine first line = some out ↔
    ∃ last, LineFilter.runAll first filters (trimEnd line) = some last ∧
      out = trimEnd last ∧ out ≠ [] := by
  rw [applyLine, Option.filter_eq_some_iff, Option.map_eq_some_iff]
  simp only [Bool.not_eq_true', List.isEmpty_eq_false_iff]
  constructor
  · rintro ⟨⟨last, hlast, rfl⟩, hne⟩
    exact ⟨last, hlast, rfl, hne⟩
  · rintro ⟨last, hlast, rfl, hne⟩
    exact ⟨⟨last, hlast, rfl⟩, hne⟩

/-- **A filtered line is left as it is.** -/
theorem applyLine_of_applyLine (prunes : ∀ f ∈ filters, f.Prunes)
    (h : filters.applyLine first line = some out) : filters.applyLine again out = some out := by
  obtain ⟨last, hlast, rfl, hne⟩ := applyLine_eq_some.1 h
  obtain ⟨-, hkept⟩ := LineFilter.runAll_of_prefix prunes hlast
  refine applyLine_eq_some.2 ⟨trimEnd last, ?_, (trimEnd_trimEnd last).symm, hne⟩
  rw [trimEnd_trimEnd]
  exact hkept again _ (trimEnd_prefix_self last)

/-- A filtered line can be told from its line end. -/
theorem isLine_of_applyLine (prunes : ∀ f ∈ filters, f.Prunes) (hline : '\n' ∉ line)
    (h : filters.applyLine first line = some out) : IsLine out ∧ out ≠ [] := by
  obtain ⟨last, hlast, rfl, hne⟩ := applyLine_eq_some.1 h
  obtain ⟨hfront, -⟩ := LineFilter.runAll_of_prefix prunes hlast
  have houtFront := (trimEnd_prefix_self last).trans (hfront.trans (trimEnd_prefix_self line))
  refine ⟨⟨fun hmem => hline (houtFront.subset hmem), fun hreturn => ?_⟩, hne⟩
  have hwhite := isWhite_of_getLast?_trimEnd hreturn
  exact absurd hwhite (by decide)

theorem mem_apply : out ∈ filters.apply text →
    ∃ first, ∃ line ∈ lines text, filters.applyLine first line = some out := by
  intro h
  rw [apply_eq_filterMap] at h
  obtain ⟨⟨line, n⟩, hmem, hline⟩ := List.mem_filterMap.1 h
  exact ⟨n == 0, line, List.fst_mem_of_mem_zipIdx hmem, hline⟩

/-- A text of which every line is left as it is. -/
theorem apply_of_kept (h : ∀ line ∈ lines text, ∀ first, filters.applyLine first line = some line) :
    filters.apply text = lines text := by
  rw [apply]
  cases hlines : lines text with
  | nil => rfl
  | cons line rest =>
    rw [hlines] at h
    obtain ⟨hfirst, hrest⟩ := List.forall_mem_cons.1 h
    have hkept : rest.filterMap (filters.applyLine false) = rest.filterMap some :=
      List.filterMap_congr fun l hl => hrest l hl false
    simp only [hfirst, hkept, List.filterMap_some]
    rfl

/-- What filters that prune have left of a text is left again. -/
theorem apply_of_lines_eq {reference : List Char} (prunes : ∀ f ∈ filters, f.Prunes)
    (h : lines reference = filters.apply text) : filters.apply reference = filters.apply text := by
  rw [← h]
  refine apply_of_kept fun line hline again => ?_
  rw [h] at hline
  obtain ⟨first, raw, -, hraw⟩ := mem_apply hline
  exact applyLine_of_applyLine prunes hraw

/-- Filters that prune can be made ready, and prune then. -/
theorem exists_compile {declared : List Filter} (prunes : ∀ f ∈ declared, f.Prunes) :
    ∃ filters, compile declared = .ok filters ∧ ∀ f ∈ filters, f.Prunes := by
  induction declared with
  | nil => exact ⟨[], rfl, by simp⟩
  | cons f declared ih =>
    obtain ⟨hf, hrest⟩ := List.forall_mem_cons.1 prunes
    obtain ⟨filters, hfilters, hprunes⟩ := ih hrest
    cases f with
    | startsWith t =>
      exact ⟨.startsWith t.toList :: filters, by simp [compile, Filter.compile, hfilters, Except.map],
        List.forall_mem_cons.2 ⟨trivial, hprunes⟩⟩
    | contains t =>
      exact ⟨.contains t.toList :: filters, by simp [compile, Filter.compile, hfilters, Except.map],
        List.forall_mem_cons.2 ⟨trivial, hprunes⟩⟩
    | ignoreAllAfter m =>
      exact ⟨.ignoreAllAfter m.toList :: filters,
        by simp [compile, Filter.compile, hfilters, Except.map],
        List.forall_mem_cons.2 ⟨trivial, hprunes⟩⟩
    | removeRegex r | replace old new | checkFirstLine t => exact absurd hf id

end FilterSet

/-- **Filtered lines are left as they are by the same filters**, if these drop lines or cut them
only.  So an output matches every reference that was made of its filtered lines, whether these are
ended by line feeds or have them in between. -/
theorem filtered_again {declared : List Filter} (prunes : ∀ f ∈ declared, f.Prunes) :
    ∃ filters, FilterSet.compile declared = .ok filters ∧ ∀ text,
      filters.apply (List.intercalate ['\n'] (filters.apply text)) = filters.apply text ∧
      filters.apply (joinLines (filters.apply text)) = filters.apply text ∧
      (compareTexts .filtered filters text
        (List.intercalate ['\n'] (filters.apply text))).holds = true ∧
      (compareTexts .filtered filters text (joinLines (filters.apply text))).holds = true := by
  obtain ⟨filters, hfilters, hprunes⟩ := FilterSet.exists_compile prunes
  refine ⟨filters, hfilters, fun text => ?_⟩
  have hlines : ∀ line ∈ filters.apply text, IsLine line ∧ line ≠ [] := by
    intro line hline
    obtain ⟨first, raw, hraw, hleft⟩ := FilterSet.mem_apply hline
    exact FilterSet.isLine_of_applyLine hprunes (newline_notMem_of_mem_lines hraw) hleft
  have hbetween := FilterSet.apply_of_lines_eq hprunes
    (lines_intercalate (fun l hl => (hlines l hl).1) fun l hl => (hlines l hl).2)
  have hended := FilterSet.apply_of_lines_eq hprunes (lines_joinLines fun l hl => (hlines l hl).1)
  exact ⟨hbetween, hended, Comparison.holds_ofLines.2 hbetween.symm,
    Comparison.holds_ofLines.2 hended.symm⟩

/-- A line that is cut twice, a line that would be dropped if it were cut first, and a line that is
cut down to its marker. -/
theorem twiceCut_filtered_again :
    (∀ f ∈ [Filter.contains "tmp", .ignoreAllAfter "done", .ignoreAllAfter "do", .startsWith "#"],
      f.Prunes) ∧
    ∃ filters, FilterSet.compile
        [.contains "tmp", .ignoreAllAfter "done", .ignoreAllAfter "do", .startsWith "#"] =
          .ok filters ∧
      filters.apply "all done in 3 s \r\n# header\ndone, wrote tmp\ndo it".toList =
        ["all do".toList, "do".toList] ∧
      filters.apply "all do\ndo".toList = ["all do".toList, "do".toList] := by
  have prunes : ∀ f ∈ [Filter.contains "tmp", .ignoreAllAfter "done", .ignoreAllAfter "do",
      .startsWith "#"], f.Prunes := by decide
  obtain ⟨filters, hfilters, hagain⟩ := filtered_again prunes
  have hfirst : filters.apply "all done in 3 s \r\n# header\ndone, wrote tmp\ndo it".toList =
      ["all do".toList, "do".toList] := by
    cases hfilters
    cbv
  have hsecond := (hagain "all done in 3 s \r\n# header\ndone, wrote tmp\ndo it".toList).1
  rw [hfirst] at hsecond
  exact ⟨prunes, filters, hfilters, hfirst, hsecond⟩

end SuiteRunner
