import Mathlib.Data.List.DropRight
import SuiteRunner.Text.Line

/-!
# The lines of a text

A text is cut at its line feeds, and a carriage return before a line feed goes with it.  Lines that
can be told from their line ends are cut out again when they are joined.

* `trim_trimEnd`, `trimEnd_dropReturn` — white space at the end of a line is trimmed anyway;
* `lines_append` — the first line of a text, and the others;
* `IsLine`, a line that no line end cuts short;
* **`lines_joinLines`** and **`lines_intercalate`** — joined lines are cut again;
* **`map_trimEnd_lines_prefix_append`** and `lines_append_of_ended` — what comes after a text adds
  lines.
-/

namespace SuiteRunner.Text

open SuiteRunner.Unicode

variable {s t line : List Char} {ls : List (List Char)}

/-! ### White space at the end -/

theorem trimEnd_prefix_self (s : List Char) : trimEnd s <+: s := List.rdropWhile_prefix isWhite s

theorem trimEnd_trimEnd (s : List Char) : trimEnd (trimEnd s) = trimEnd s :=
  List.rdropWhile_idempotent isWhite s

/-- A trimmed line does not end with white space. -/
theorem isWhite_of_getLast?_trimEnd {c : Char} (h : (trimEnd s).getLast? = some c) :
    isWhite c = false := by
  have hne : trimEnd s ≠ [] := by
    intro hnil
    rw [hnil] at h
    cases h
  rw [List.getLast?_eq_getLast_of_ne_nil hne, Option.some.injEq] at h
  have hlast := List.rdropWhile_last_not isWhite s hne
  rw [← h]
  exact eq_false_of_ne_true hlast

theorem trimEnd_append_of_white (s : List Char) {white : List Char}
    (h : ∀ c ∈ white, isWhite c = true) : trimEnd (s ++ white) = trimEnd s := by
  have hreverse : ∀ c ∈ white.reverse, isWhite c = true := fun c hc => h c (List.mem_reverse.1 hc)
  rw [trimEnd, trimEnd, List.reverse_append, List.dropWhile_append_of_pos hreverse]

/-- White space at the end is trimmed in any case. -/
theorem trim_trimEnd (s : List Char) : trim (trimEnd s) = trim s := by
  have hwhite : ∀ c ∈ s.rtakeWhile isWhite, isWhite c = true := fun c => List.mem_rtakeWhile_imp
  have hsplit : trimEnd s ++ s.rtakeWhile isWhite = s := List.rdropWhile_append_rtakeWhile
  have hstart := congrArg (fun r => trimEnd (trimStart r)) hsplit
  rw [trim, trim, ← hstart]
  simp only [trimStart, List.dropWhile_append]
  split
  · rename_i hempty
    rw [List.isEmpty_iff.1 hempty, List.dropWhile_eq_nil_iff.2 hwhite]
  · rw [trimEnd_append_of_white _ hwhite]

theorem dropReturn_prefix_self (line : List Char) : dropReturn line <+: line := by
  rw [dropReturn]
  split
  · exact List.dropLast_prefix line
  · exact List.prefix_rfl

theorem trimEnd_dropReturn (line : List Char) : trimEnd (dropReturn line) = trimEnd line := by
  rw [dropReturn]
  split
  · rename_i hlast
    obtain ⟨front, rfl⟩ := List.getLast?_eq_some_iff.1 hlast
    rw [List.dropLast_concat, trimEnd_append_of_white front (by decide)]
  · rfl

/-! ### One line after another -/

theorem linesFrom_append (current : List Char) (h : '\n' ∉ s) (t : List Char) :
    linesFrom current (s ++ '\n' :: t) = dropReturn (current.reverse ++ s) :: lines t := by
  induction s generalizing current with
  | nil => rw [List.nil_append, linesFrom, if_pos rfl, List.append_nil, lines]
  | cons c s ih =>
    rw [List.mem_cons, not_or] at h
    rw [List.cons_append, linesFrom, if_neg (Ne.symm h.1), ih (c :: current) h.2]
    simp

theorem linesFrom_of_notMem {current : List Char} (h : '\n' ∉ s)
    (nonempty : current.reverse ++ s ≠ []) : linesFrom current s = [current.reverse ++ s] := by
  induction s generalizing current with
  | nil =>
    have hcurrent : current.isEmpty = false := by simpa using nonempty
    rw [linesFrom, hcurrent, List.append_nil]
    rfl
  | cons c s ih =>
    rw [List.mem_cons, not_or] at h
    rw [linesFrom, if_neg (Ne.symm h.1), ih h.2 (by simp)]
    simp

/-- The first line of a text ends at the first line feed. -/
theorem lines_append (h : '\n' ∉ s) (t : List Char) :
    lines (s ++ '\n' :: t) = dropReturn s :: lines t := linesFrom_append [] h t

theorem lines_of_notMem (h : '\n' ∉ s) (nonempty : s ≠ []) : lines s = [s] :=
  linesFrom_of_notMem h nonempty

/-- Lines have no line feeds in them. -/
theorem newline_notMem_of_mem_lines (h : line ∈ lines s) : '\n' ∉ line := by
  have hfrom : ∀ (s current : List Char), '\n' ∉ current →
      ∀ line ∈ linesFrom current s, '\n' ∉ line := by
    intro s
    induction s with
    | nil =>
      intro current hcurrent line hline
      rw [linesFrom] at hline
      split at hline
      · cases hline
      · rw [List.mem_singleton.1 hline, List.mem_reverse]
        exact hcurrent
    | cons c s ih =>
      intro current hcurrent line hline
      rw [linesFrom] at hline
      split at hline
      · rcases List.mem_cons.1 hline with rfl | hline
        · exact fun hmem =>
            hcurrent (List.mem_reverse.1 ((dropReturn_prefix_self current.reverse).subset hmem))
        · exact ih [] List.not_mem_nil line hline
      · rename_i hc
        exact ih (c :: current) (by simp [Ne.symm hc, hcurrent]) line hline
  exact hfrom s [] List.not_mem_nil line h

/-! ### Joined lines -/

/-- No line end cuts the line short: there is no line feed in it, and no carriage return at its
end. -/
def IsLine (line : List Char) : Prop := '\n' ∉ line ∧ line.getLast? ≠ some '\r'

theorem IsLine.dropReturn_eq (h : IsLine line) : dropReturn line = line := if_neg h.2

/-- **Lines that are ended by line feeds are cut again.** -/
theorem lines_joinLines (h : ∀ line ∈ ls, IsLine line) : lines (joinLines ls) = ls := by
  induction ls with
  | nil => rfl
  | cons line ls ih =>
    obtain ⟨hline, hrest⟩ := List.forall_mem_cons.1 h
    rw [joinLines, List.flatMap_cons, List.append_assoc, List.singleton_append,
      lines_append hline.1, hline.dropReturn_eq]
    exact congrArg (line :: ·) (ih hrest)

/-- **Lines with line feeds between them are cut again**, if none of them is empty. -/
theorem lines_intercalate (h : ∀ line ∈ ls, IsLine line) (nonempty : ∀ line ∈ ls, line ≠ []) :
    lines (List.intercalate ['\n'] ls) = ls := by
  induction ls with
  | nil => rfl
  | cons line ls ih =>
    obtain ⟨hline, hrest⟩ := List.forall_mem_cons.1 h
    obtain ⟨hne, hnonempty⟩ := List.forall_mem_cons.1 nonempty
    cases ls with
    | nil => rw [List.intercalate_singleton, lines_of_notMem hline.1 hne]
    | cons next ls =>
      rw [List.intercalate_cons_cons, List.append_assoc, List.singleton_append,
        lines_append hline.1, hline.dropReturn_eq, ih hrest hnonempty]

/-! ### More lines -/

/-- **A text that goes on after a line feed has more lines**: those that it had stay, up to a
carriage return at the end. -/
theorem map_trimEnd_lines_prefix_append (s t : List Char) :
    (lines s).map trimEnd <+: (lines (s ++ '\n' :: t)).map trimEnd := by
  have hfrom : ∀ s current : List Char, (linesFrom current s).map trimEnd <+:
      (linesFrom current (s ++ '\n' :: t)).map trimEnd := by
    intro s
    induction s with
    | nil =>
      intro current
      rw [List.nil_append, linesFrom, linesFrom, if_pos rfl, List.map_cons, trimEnd_dropReturn]
      split
      · exact List.nil_prefix
      · exact (List.prefix_append [trimEnd current.reverse] _)
    | cons c s ih =>
      intro current
      rw [List.cons_append, linesFrom, linesFrom]
      split
      · exact (List.prefix_cons_inj _).2 (ih [])
      · exact ih (c :: current)
  exact hfrom s []

/-- A text that ends with a line feed has all its lines before those of what comes after it. -/
theorem lines_append_of_ended (h : s.getLast? = some '\n') (t : List Char) :
    lines (s ++ t) = lines s ++ lines t := by
  have hfrom : ∀ front current : List Char,
      linesFrom current (front ++ '\n' :: t) = linesFrom current (front ++ ['\n']) ++ lines t := by
    intro front
    induction front with
    | nil =>
      intro current
      simp [linesFrom, lines]
    | cons c front ih =>
      intro current
      rw [List.cons_append, List.cons_append, linesFrom, linesFrom]
      split
      · rw [ih, List.cons_append]
      · exact ih (c :: current)
  obtain ⟨front, rfl⟩ := List.getLast?_eq_some_iff.1 h
  rw [List.append_assoc, List.singleton_append]
  exact hfrom front []

end SuiteRunner.Text
