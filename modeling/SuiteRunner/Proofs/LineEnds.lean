import Mathlib.Logic.Relation
import SuiteRunner.Proofs.ComparisonModes
import SuiteRunner.Proofs.TextLines

/-!
# White space that no comparison sees

A comparison looks at lines without the white space at their ends, and a carriage return of a line
end is such white space, too.  The exact and the sorted mode look at no blank lines at the end of a
text, either.

* `Text.exists_lines_append` — a text is read up to a place: the lines that have ended, and the part
  of the next one;
* `prepare_congr` — the trimmed lines are all that any mode sees of a text;
* `Respacing`, one change of the white space at the end of a line, and `Respaced`, any number of
  them;
* **`Respacing.prepare_eq`** — the step: one change leaves the lines that are compared;
* **`Respaced.prepare_eq`** — the run: so do changes one after another;
* **`compareTexts_of_respaced`** — respaced texts are compared with the same outcome.
-/

namespace SuiteRunner

open Text Unicode

/-! ### Lines with white space at their ends -/

namespace Text

variable {white : List Char}

theorem exists_linesFrom_append (front current : List Char) :
    ∃ ls rest, ∀ t, linesFrom current (front ++ t) = ls ++ linesFrom rest t := by
  induction front generalizing current with
  | nil => exact ⟨[], current, fun _ => rfl⟩
  | cons c front ih =>
    by_cases hc : c = '\n'
    · obtain ⟨ls, rest, h⟩ := ih []
      refine ⟨dropReturn current.reverse :: ls, rest, fun t => ?_⟩
      rw [List.cons_append, linesFrom, if_pos hc, h t, List.cons_append]
    · obtain ⟨ls, rest, h⟩ := ih (c :: current)
      refine ⟨ls, rest, fun t => ?_⟩
      rw [List.cons_append, linesFrom, if_neg hc, h t]

/-- **A text is read up to a place.**  Whatever comes after it, the lines that have ended stay, and
the next one goes on. -/
theorem exists_lines_append (front : List Char) :
    ∃ ls rest, ∀ t, lines (front ++ t) = ls ++ linesFrom rest t := exists_linesFrom_append front []

/-- White space before a line feed is trimmed. -/
theorem map_trimEnd_lines_insert (h : ∀ c ∈ white, isWhite c = true) (hwhite : '\n' ∉ white)
    (front back : List Char) : (lines (front ++ white ++ '\n' :: back)).map trimEnd =
      (lines (front ++ '\n' :: back)).map trimEnd := by
  obtain ⟨ls, rest, hread⟩ := exists_lines_append front
  have hlong := linesFrom_append rest hwhite back
  have hshort := linesFrom_append rest List.not_mem_nil back
  rw [List.nil_append, List.append_nil] at hshort
  rw [List.append_assoc, hread, hread, hlong, hshort, List.map_append, List.map_append,
    List.map_cons, List.map_cons, trimEnd_dropReturn, trimEnd_dropReturn,
    trimEnd_append_of_white _ h]

/-- White space at the end of the last line is trimmed. -/
theorem map_trimEnd_lines_last {c : Char} (hc : c ≠ '\n') (h : ∀ c ∈ white, isWhite c = true)
    (hwhite : '\n' ∉ white) (front : List Char) :
    (lines (front ++ [c] ++ white)).map trimEnd = (lines (front ++ [c])).map trimEnd := by
  obtain ⟨ls, rest, hread⟩ := exists_lines_append front
  have hlong : linesFrom (c :: rest) white = [(c :: rest).reverse ++ white] :=
    linesFrom_of_notMem hwhite (by simp)
  have hshort : linesFrom (c :: rest) [] = [(c :: rest).reverse] := rfl
  rw [List.append_assoc, hread, hread, List.singleton_append, linesFrom, linesFrom, if_neg hc,
    if_neg hc, hlong, hshort, List.map_append, List.map_append, List.map_singleton,
    List.map_singleton, trimEnd_append_of_white _ h]

/-- White space goes on with the open line, and blank lines come after it. -/
theorem map_trimEnd_linesFrom_white (h : ∀ c ∈ white, isWhite c = true) (current : List Char) :
    ∃ k, (linesFrom current white).map trimEnd =
      (linesFrom current []).map trimEnd ++ List.replicate k [] := by
  induction white generalizing current with
  | nil => exact ⟨0, by simp⟩
  | cons c white ih =>
    obtain ⟨hc, hrest⟩ := List.forall_mem_cons.1 h
    -- The open line ends here, or goes on with white space: trimmed, it is the same line.
    have hopen : ∃ k, (linesFrom current (c :: white)).map trimEnd =
        trimEnd current.reverse :: List.replicate k [] := by
      by_cases hnewline : c = '\n'
      · obtain ⟨k, hk⟩ := ih hrest []
        refine ⟨k, ?_⟩
        rw [linesFrom, if_pos hnewline, List.map_cons, trimEnd_dropReturn, hk]
        rfl
      · obtain ⟨k, hk⟩ := ih hrest (c :: current)
        refine ⟨k, ?_⟩
        rw [linesFrom, if_neg hnewline, hk]
        show trimEnd (c :: current).reverse :: List.replicate k [] = _
        rw [List.reverse_cons, trimEnd_append_of_white _ (by simpa using hc)]
    obtain ⟨k, hk⟩ := hopen
    rw [hk]
    cases current with
    | nil => exact ⟨k + 1, rfl⟩
    | cons d current => exact ⟨k, rfl⟩

/-- **White space at the end of a text adds blank lines at most.** -/
theorem map_trimEnd_lines_append_white (h : ∀ c ∈ white, isWhite c = true) (text : List Char) :
    ∃ k, (lines (text ++ white)).map trimEnd =
      (lines text).map trimEnd ++ List.replicate k [] := by
  obtain ⟨ls, rest, hread⟩ := exists_lines_append text
  obtain ⟨k, hk⟩ := map_trimEnd_linesFrom_white h rest
  have hshort := hread []
  rw [List.append_nil] at hshort
  refine ⟨k, ?_⟩
  rw [hread, hshort, List.map_append, List.map_append, hk, List.append_assoc]

end Text

/-! ### What a mode sees -/

section Prepared

variable {s t : List Char}

theorem FilterSet.applyLine_trimEnd (filters : FilterSet) (first : Bool) (line : List Char) :
    filters.applyLine first (trimEnd line) = filters.applyLine first line := by
  rw [applyLine, applyLine, trimEnd_trimEnd]

/-- What filters leave of a text is what they leave of its trimmed lines. -/
theorem FilterSet.apply_eq_trimmed (filters : FilterSet) (text : List Char) :
    filters.apply text = ((lines text).map trimEnd).zipIdx.filterMap
      fun l => filters.applyLine (l.2 == 0) l.1 := by
  rw [apply_eq_filterMap, List.zipIdx_map, List.filterMap_map]
  refine List.filterMap_congr fun l _ => ?_
  exact (applyLine_trimEnd filters (l.2 == 0) l.1).symm

/-- **The trimmed lines are all that a mode sees of a text.** -/
theorem prepare_congr (mode : CompareMode) (filters : FilterSet)
    (h : (lines s).map trimEnd = (lines t).map trimEnd) :
    prepare mode filters s = prepare mode filters t := by
  have hlines : normalize s = normalize t := congrArg dropTrailingBlanks h
  cases mode with
  | exact => exact hlines
  | sorted => exact congrArg (List.mergeSort · lineLe) hlines
  | filtered =>
    show filters.apply s = filters.apply t
    rw [filters.apply_eq_trimmed, filters.apply_eq_trimmed, h]
  | none => rfl

/-- White space at the end of a text is not among its lines up to the last one that is not blank. -/
theorem normalize_append_white {white : List Char} (h : ∀ c ∈ white, isWhite c = true)
    (text : List Char) : normalize (text ++ white) = normalize text := by
  obtain ⟨k, hk⟩ := map_trimEnd_lines_append_white h text
  have htrimmed : TrimmedLines (text ++ white) (normalize text) := by
    refine ⟨⟨blanksAtEnd text + k, ?_⟩, getLast?_dropTrailingBlanks _⟩
    rw [hk, ← normalize_append, List.append_assoc, List.replicate_append_replicate]
  exact (trimmedLines_iff.1 htrimmed).symm

end Prepared

/-! ### Respaced texts -/

/-- One change of the white space at the end of a line, of its line end, or of the end of a text. -/
inductive Respacing (mode : CompareMode) : List Char → List Char → Prop
  /-- A line feed becomes a carriage return and a line feed. -/
  | toCrlf (front back : List Char) :
    Respacing mode (front ++ '\n' :: back) (front ++ '\r' :: '\n' :: back)
  /-- A carriage return and a line feed become a line feed. -/
  | toLf (front back : List Char) :
    Respacing mode (front ++ '\r' :: '\n' :: back) (front ++ '\n' :: back)
  /-- White space without a line feed is put between a line and its line end. -/
  | padded (front white ending back : List Char) : ending = ['\n'] ∨ ending = ['\r', '\n'] →
    (∀ c ∈ white, isWhite c = true) → '\n' ∉ white →
    Respacing mode (front ++ ending ++ back) (front ++ white ++ ending ++ back)
  /-- White space without a line feed is put after a last line that has no line end. -/
  | paddedLast (front : List Char) (c : Char) (white : List Char) : c ≠ '\n' →
    (∀ c ∈ white, isWhite c = true) → '\n' ∉ white →
    Respacing mode (front ++ [c]) (front ++ [c] ++ white)
  /-- Blank lines are put at the end of a text: any white space, with line feeds in it.  The filtered
  mode may see them. -/
  | blankLines (text white : List Char) : mode = .exact ∨ mode = .sorted →
    (∀ c ∈ white, isWhite c = true) → Respacing mode text (text ++ white)

/-- The second text is made from the first one by such changes, at any number of places. -/
def Respaced (mode : CompareMode) : List Char → List Char → Prop :=
  Relation.ReflTransGen (Respacing mode)

section Respaced

variable {mode : CompareMode} {s t : List Char}

/-- **The step**: a change leaves the lines that are compared. -/
theorem Respacing.prepare_eq (h : Respacing mode s t) (filters : FilterSet) :
    prepare mode filters t = prepare mode filters s := by
  -- A carriage return is white space before the line feed.
  have hreturn := @map_trimEnd_lines_insert ['\r'] (by decide) (by decide)
  cases h with
  | toCrlf front back =>
    refine prepare_congr mode filters ?_
    simpa using hreturn front back
  | toLf front back =>
    refine prepare_congr mode filters ?_
    simpa using (hreturn front back).symm
  | padded front white ending back hending hwhite hnewline =>
    refine prepare_congr mode filters ?_
    have hinsert := map_trimEnd_lines_insert hwhite hnewline front back
    rcases hending with rfl | rfl
    · simpa using hinsert
    · have hlong := hreturn (front ++ white) back
      have hshort := hreturn front back
      simp only [List.append_assoc, List.cons_append, List.nil_append] at hlong hshort hinsert ⊢
      rw [hlong, hshort, hinsert]
  | paddedLast front c white hc hwhite hnewline =>
    exact prepare_congr mode filters (map_trimEnd_lines_last hc hwhite hnewline front)
  | blankLines text white hmode hwhite =>
    have hlines := normalize_append_white hwhite s
    rcases hmode with rfl | rfl
    · exact hlines
    · exact congrArg (List.mergeSort · lineLe) hlines

/-- **The run**: so do changes one after another. -/
theorem Respaced.prepare_eq (h : Respaced mode s t) (filters : FilterSet) :
    prepare mode filters t = prepare mode filters s := by
  induction h with
  | refl => rfl
  | tail _ hstep ih => exact (hstep.prepare_eq filters).trans ih

end Respaced

/-- **Respaced texts are compared with the same outcome.**  In all modes line ends may be changed,
and white space be put at the ends of lines; in the exact and the sorted mode blank lines may be put
at the ends of the texts, too.  The whole comparison stays: which lines differ, what they are, and
how many there are. -/
theorem compareTexts_of_respaced {mode : CompareMode} (filters : FilterSet)
    {actual actual' expected expected' : List Char} (ha : Respaced mode actual actual')
    (he : Respaced mode expected expected') :
    compareTexts mode filters actual' expected' = compareTexts mode filters actual expected := by
  rw [compareTexts, compareTexts, ha.prepare_eq, he.prepare_eq]

/-- Two texts that differ in one line, and go on to differ in it when white space is put everywhere:
a line end, the end of the last line and the end of the text are changed in the one, and a line end
and a line before it in the other. -/
theorem respacedLines_compared_alike :
    Respaced .sorted ['b', '\n', 'a'] ['b', '\r', '\n', 'a', ' ', '\t', '\n', ' ', '\r', '\n'] ∧
    Respaced .sorted ['a', '\r', '\n', 'c', '\n'] ['a', '\n', 'c', '\u3000', '\n'] ∧
    compareTexts .sorted [] ['b', '\r', '\n', 'a', ' ', '\t', '\n', ' ', '\r', '\n']
        ['a', '\n', 'c', '\u3000', '\n'] =
      compareTexts .sorted [] ['b', '\n', 'a'] ['a', '\r', '\n', 'c', '\n'] ∧
    (compareTexts .sorted [] ['b', '\n', 'a'] ['a', '\r', '\n', 'c', '\n']).differences =
      [⟨2, some ['c'], some ['b']⟩] := by
  have ha : Respaced .sorted ['b', '\n', 'a']
      ['b', '\r', '\n', 'a', ' ', '\t', '\n', ' ', '\r', '\n'] :=
    .head (.toCrlf ['b'] ['a']) <|
    .head (.paddedLast ['b', '\r', '\n'] 'a' [' ', '\t'] (by decide) (by decide) (by decide)) <|
    .single (.blankLines ['b', '\r', '\n', 'a', ' ', '\t'] ['\n', ' ', '\r', '\n'] (.inr rfl)
      (by decide))
  have he : Respaced .sorted ['a', '\r', '\n', 'c', '\n'] ['a', '\n', 'c', '\u3000', '\n'] :=
    .head (.toLf ['a'] ['c', '\n']) <|
    .single (.padded ['a', '\n', 'c'] ['\u3000'] ['\n'] [] (.inl rfl) (by decide) (by decide))
  exact ⟨ha, he, compareTexts_of_respaced [] ha he, by cbv⟩

end SuiteRunner
