import SuiteRunner.Proofs.JsonReading
import SuiteRunner.Report.Format

/-!
# Colors are put in, and nothing else

The output of a formatter with colors is that of the formatter without them, with color sequences put
in.  Every text is painted after it has been cut and padded, so the columns of the table and the
lines of a listing are the same with colors and without them.

* `Text.dropColors` and `withoutColors`, a text without its color sequences;
* `Text.Coloring`, the relation of a text with color sequences to the text they were put in;
* **`Text.Coloring.dropColors_eq`** — the text is left when the color sequences are taken out;
* `IsPlain`, texts without an escape character, with `Json.isPlain_compact` and
  `Json.isPlain_prettyAt`: no document has one, whatever its texts are;
* `Formatter.isColoring_paint` — the step: one text is painted;
* **`Formatter.colors_only_decorate`** — runs, progress lines and listings.
-/

namespace SuiteRunner

/-! ### Color sequences -/

namespace Text

open Unicode

/-- The characters of the parameters of a color sequence. -/
def isParameter (c : Char) : Bool := isAsciiDigit c || c = ';' || c = ':'

/-- What comes after a color sequence whose escape character has been read: a bracket, parameters, and
the letter `m`. -/
def afterSequence? (s : List Char) : Option (List Char) :=
  match s with
  | '[' :: s =>
    match s.dropWhile isParameter with
    | 'm' :: rest => some rest
    | _ => none
  | _ => none

theorem length_of_afterSequence? {s rest : List Char} (h : afterSequence? s = some rest) :
    rest.length < s.length := by
  rw [afterSequence?.eq_def] at h
  split at h
  · rename_i s
    split at h
    · rename_i after hparameters
      have hle := (List.dropWhile_sublist (p := isParameter) (l := s)).length_le
      rw [hparameters, List.length_cons] at hle
      rw [← Option.some.inj h, List.length_cons]
      omega
    · cases h
  · cases h

/-- The text without its color sequences. -/
def dropColors (s : List Char) : List Char :=
  match s with
  | [] => []
  | c :: s =>
    if c = '\x1b' then
      match _found : afterSequence? s with
      | some rest => dropColors rest
      | none => c :: dropColors s
    else c :: dropColors s
termination_by s.length
decreasing_by
  · exact Nat.lt_succ_of_lt (length_of_afterSequence? _found)
  · exact Nat.lt_succ_self _
  · exact Nat.lt_succ_self _

/-- The first text is the second one with color sequences put in; the second one has no escape
character. -/
inductive Coloring : List Char → List Char → Prop
  | nil : Coloring [] []
  | char {c : Char} {s t : List Char} (hc : c ≠ '\x1b') (h : Coloring s t) :
      Coloring (c :: s) (c :: t)
  | sequence {ps s t : List Char} (hps : ∀ p ∈ ps, isParameter p = true) (h : Coloring s t) :
      Coloring ('\x1b' :: '[' :: (ps ++ 'm' :: s)) t

variable {s s' t t' : List Char}

theorem Coloring.append (h : Coloring s t) (h' : Coloring s' t') :
    Coloring (s ++ s') (t ++ t') := by
  induction h with
  | nil => exact h'
  | char hc _ ih => exact .char hc ih
  | @sequence ps s t hps _ ih =>
    have hassoc : '\x1b' :: '[' :: (ps ++ 'm' :: s) ++ s' =
        '\x1b' :: '[' :: (ps ++ 'm' :: (s ++ s')) := by simp
    rw [hassoc]
    exact .sequence hps ih

/-- A text without an escape character is a coloring of itself. -/
theorem Coloring.refl (h : '\x1b' ∉ s) : Coloring s s := by
  induction s with
  | nil => exact .nil
  | cons c s ih =>
    rw [List.mem_cons, not_or] at h
    exact .char (Ne.symm h.1) (ih h.2)

/-- **What was put in is taken out again**, and nothing else. -/
theorem Coloring.dropColors_eq (h : Coloring s t) : dropColors s = t := by
  induction h with
  | nil => rw [dropColors]
  | char hc _ ih => rw [dropColors, if_neg hc, ih]
  | @sequence ps s t hps _ ih =>
    have hafter : afterSequence? ('[' :: (ps ++ 'm' :: s)) = some s := by
      have hstop : (ps ++ 'm' :: s).dropWhile isParameter = 'm' :: s := by
        rw [List.dropWhile_append_of_pos hps, List.dropWhile_cons_of_neg (by decide)]
      simp [afterSequence?, hstop]
    rw [dropColors, if_pos rfl]
    split
    · rename_i rest hfound
      rw [hafter, Option.some.injEq] at hfound
      rw [← hfound, ih]
    · rename_i hfound
      rw [hafter] at hfound
      cases hfound

end Text

/-- The text without its color sequences. -/
def withoutColors (s : String) : String := String.ofList (Text.dropColors s.toList)

/-! ### Plain texts -/

/-- A text without an escape character. -/
def IsPlain (s : String) : Prop := '\x1b' ∉ s.toList

instance : DecidablePred IsPlain := fun s => inferInstanceAs (Decidable (_ ∉ s.toList))

@[simp]
theorem isPlain_append {s t : String} : IsPlain (s ++ t) ↔ IsPlain s ∧ IsPlain t := by
  rw [IsPlain, String.toList_append, List.mem_append, not_or]
  rfl

theorem isPlain_ofList {s : List Char} : IsPlain (String.ofList s) ↔ '\x1b' ∉ s := by
  rw [IsPlain, String.toList_ofList]

theorem isPlain_replicate {c : Char} (hc : c ≠ '\x1b') (n : Nat) :
    IsPlain (String.ofList (List.replicate n c)) :=
  isPlain_ofList.2 fun h => hc (List.eq_of_mem_replicate h).symm

namespace Numeral

@[simp]
theorem isPlain_repr (n : Nat) : IsPlain n.repr := by
  rw [IsPlain, Nat.toList_repr]
  intro h
  exact absurd (Json.isAsciiDigit_toDigits _ h) (by decide)

theorem isPlain_int (n : Int) : IsPlain (toString n) := by
  rw [Int.toString_eq_repr, Int.repr_eq_if]
  split
  · exact isPlain_repr n.toNat
  · exact isPlain_append.2 ⟨by decide, isPlain_repr (-n).toNat⟩

@[simp]
theorem isPlain_padLeft {fill : Char} (hfill : fill ≠ '\x1b') {s : String} (hs : IsPlain s)
    (width : Nat) : IsPlain (padLeft fill width s) :=
  isPlain_append.2 ⟨isPlain_replicate hfill _, hs⟩

theorem isPlain_padRight {s : String} (hs : IsPlain s) (width : Nat) :
    IsPlain (padRight width s) :=
  isPlain_append.2 ⟨hs, isPlain_replicate (by decide) _⟩

@[simp]
theorem isPlain_fixed (places num den : Nat) : IsPlain (fixed places num den) := by
  refine isPlain_append.2 ⟨isPlain_append.2 ⟨isPlain_repr _, by decide⟩, ?_⟩
  exact isPlain_padLeft (by decide) (isPlain_repr _) _

end Numeral

open Numeral

/-! ### Documents -/

namespace Json

theorem escape_notMem_escapeChar (c : Char) : '\x1b' ∉ escapeChar c := by
  have hdigit : ∀ n < 16, hexDigit n ≠ '\x1b' := by decide
  rw [escapeChar.eq_def]
  split <;> try decide
  split
  · -- The escape character itself is written as its code point.
    have hhigh := hdigit (c.toNat / 16) (by omega)
    have hlow := hdigit (c.toNat % 16) (by omega)
    simp [hhigh.symm, hlow.symm]
  · rename_i hprints
    rw [List.mem_singleton]
    rintro rfl
    exact hprints (by decide)

theorem isPlain_quote (s : String) : IsPlain (quote s) := by
  rw [IsPlain, toList_quote, List.mem_cons, List.mem_append, List.mem_flatMap]
  rintro (h | ⟨c, -, hc⟩ | h)
  · cases h
  · exact escape_notMem_escapeChar c hc
  · exact absurd h (by decide)

mutual

/-- A document on one line has no escape character. -/
theorem isPlain_compact : ∀ v : Value, IsPlain (compact v)
  | .null => by rw [compact]; decide
  | .bool b => by
    rw [compact]
    cases b <;> decide
  | .int n => by
    rw [compact]
    exact isPlain_int n
  | .text s => by
    rw [compact]
    exact isPlain_quote s
  | .list items => by simp +decide [compact, isPlain_compactItems items]
  | .object ms => by simp +decide [compact, isPlain_compactMembers ms]

theorem isPlain_compactItems : ∀ vs : List Value, IsPlain (compactItems vs)
  | [] => by rw [compactItems]; decide
  | [v] => by
    rw [compactItems]
    exact isPlain_compact v
  | v :: w :: vs => by
    simp +decide [compactItems, isPlain_compact v, isPlain_compactItems (w :: vs)]

theorem isPlain_compactMembers : ∀ ms : List (String × Value), IsPlain (compactMembers ms)
  | [] => by rw [compactMembers]; decide
  | [(name, v)] => by
    simp +decide [compactMembers, isPlain_quote, isPlain_compact v]
  | (name, v) :: m :: ms => by
    simp +decide [compactMembers, isPlain_quote, isPlain_compact v,
      isPlain_compactMembers (m :: ms)]

end

theorem isPlain_newLine (level : Nat) : IsPlain (newLine level) :=
  isPlain_append.2 ⟨by decide, isPlain_replicate (by decide) _⟩

mutual

/-- A document on several lines has no escape character. -/
theorem isPlain_prettyAt (level : Nat) : ∀ v : Value, IsPlain (prettyAt level v)
  | .null => by rw [prettyAt]; decide
  | .bool b => by
    rw [prettyAt]
    cases b <;> decide
  | .int n => by
    rw [prettyAt]
    exact isPlain_int n
  | .text s => by
    rw [prettyAt]
    exact isPlain_quote s
  | .list [] => by rw [prettyAt]; decide
  | .list (v :: vs) => by
    simp +decide [prettyAt, isPlain_newLine, isPlain_prettyItems (level + 1) (v :: vs)]
  | .object [] => by rw [prettyAt]; decide
  | .object (m :: ms) => by
    simp +decide [prettyAt, isPlain_newLine, isPlain_prettyMembers (level + 1) (m :: ms)]

theorem isPlain_prettyItems (level : Nat) : ∀ vs : List Value, IsPlain (prettyItems level vs)
  | [] => by rw [prettyItems]; decide
  | [v] => by simp [prettyItems, isPlain_newLine, isPlain_prettyAt level v]
  | v :: w :: vs => by
    simp +decide [prettyItems, isPlain_newLine, isPlain_prettyAt level v,
      isPlain_prettyItems level (w :: vs)]

theorem isPlain_prettyMembers (level : Nat) :
    ∀ ms : List (String × Value), IsPlain (prettyMembers level ms)
  | [] => by rw [prettyMembers]; decide
  | [(name, v)] => by
    simp +decide [prettyMembers, isPlain_newLine, isPlain_quote, isPlain_prettyAt level v]
  | (name, v) :: m :: ms => by
    simp +decide [prettyMembers, isPlain_newLine, isPlain_quote, isPlain_prettyAt level v,
      isPlain_prettyMembers level (m :: ms)]

end

end Json

/-! ### Parts of the output -/

/-- The first text is the second one with color sequences put in. -/
def IsColoring (s t : String) : Prop := Text.Coloring s.toList t.toList

namespace IsColoring

variable {s s' t t' front back : String}

theorem refl (h : IsPlain s) : IsColoring s s := Text.Coloring.refl h

theorem append (h : IsColoring s t) (h' : IsColoring s' t') : IsColoring (s ++ s') (t ++ t') := by
  rw [IsColoring, String.toList_append, String.toList_append]
  exact Text.Coloring.append h h'

/-- Plain texts stand around what is colored. -/
theorem between (h : IsColoring s t) (hfront : IsPlain front) (hback : IsPlain back) :
    IsColoring (front ++ s ++ back) (front ++ t ++ back) :=
  ((refl hfront).append h).append (refl hback)

theorem join {α : Type} {f g : α → String} {xs : List α}
    (h : ∀ x ∈ xs, IsColoring (f x) (g x)) :
    IsColoring (String.join (xs.map f)) (String.join (xs.map g)) := by
  induction xs with
  | nil => exact .nil
  | cons x xs ih =>
    rw [List.map_cons, List.map_cons, String.join_cons, String.join_cons]
    exact (h x List.mem_cons_self).append (ih fun y hy => h y (List.mem_cons_of_mem _ hy))

theorem withoutColors_eq (h : IsColoring s t) : withoutColors s = t := by
  rw [withoutColors, Text.Coloring.dropColors_eq h, String.ofList_toList]

end IsColoring

/-- A result of which no text that is shown has an escape character. -/
structure CaseResult.IsPlain (r : CaseResult) : Prop where
  suite : SuiteRunner.IsPlain r.suite
  name : SuiteRunner.IsPlain r.name
  message : ∀ m ∈ r.message, SuiteRunner.IsPlain m

/-- A run of which no text that is shown has an escape character: the names of its suites, and the
results that are listed after the table. -/
structure RunSummary.IsPlain (run : RunSummary) : Prop where
  suites : ∀ s ∈ run.suites, SuiteRunner.IsPlain s.suite
  failures : ∀ r ∈ run.failures, r.IsPlain

/-- A listed case of which no text that is shown has an escape character. -/
structure Listing.IsPlain (l : Listing) : Prop where
  suite : SuiteRunner.IsPlain l.suite
  testType : SuiteRunner.IsPlain l.testType
  name : SuiteRunner.IsPlain l.name
  model : SuiteRunner.IsPlain l.model
  skip : ∀ reason ∈ l.skip, SuiteRunner.IsPlain reason

namespace Formatter

variable {f : Formatter} {r : CaseResult} {run : RunSummary} {s : SuiteSummary} {l : Listing}

/-- The formatter that writes the same without colors. -/
def uncolored (f : Formatter) : Formatter := { f with colored := false }

/-- **The step**: a plain text is painted. -/
theorem isColoring_paint (f : Formatter) (color : Color) {text : String} (h : IsPlain text) :
    IsColoring (f.paint color text) (f.uncolored.paint color text) := by
  obtain ⟨format, colored⟩ := f
  cases colored with
  | false => exact .refl h
  | true =>
    have hcode : ∀ p ∈ color.code.toList, Text.isParameter p = true := by
      cases color <;> decide
    have hreset : ∀ p ∈ ['0'], Text.isParameter p = true := by decide
    have hend : Text.Coloring "\x1b[0m".toList [] := .sequence hreset .nil
    have hpainted := Text.Coloring.sequence hcode ((Text.Coloring.refl h).append hend)
    rw [List.append_nil] at hpainted
    show Text.Coloring ("\x1b[" ++ color.code ++ "m" ++ text ++ "\x1b[0m").toList text.toList
    simpa using hpainted

theorem isColoring_label (f : Formatter) (status : Status) :
    IsColoring (f.label status) (f.uncolored.label status) := by
  refine isColoring_paint f _ ?_
  cases status <;> decide

theorem isColoring_verdict (f : Formatter) (run : RunSummary) :
    IsColoring (f.verdict run) (f.uncolored.verdict run) := by
  rw [verdict, verdict]
  split
  · exact isColoring_paint f _ (by decide)
  · split
    · exact isColoring_paint f _ (by decide)
    · exact isColoring_paint f _ (by decide)

theorem isPlain_after {message : Option String} (h : ∀ m ∈ message, IsPlain m) :
    IsPlain (after message) := by
  cases message with
  | none => decide
  | some m => exact isPlain_append.2 ⟨by decide, h m rfl⟩

theorem isPlain_qualifiedName (h : r.IsPlain) : IsPlain r.qualifiedName :=
  isPlain_append.2 ⟨isPlain_append.2 ⟨h.suite, by decide⟩, h.name⟩

theorem isPlain_truncate {text : String} (h : IsPlain text) (max : Nat) :
    IsPlain (truncate max text) := by
  rw [truncate]
  split
  · exact h
  · exact isPlain_append.2 ⟨isPlain_ofList.2 fun hmem => h (List.mem_of_mem_take hmem), by decide⟩

/-! ### Results -/

/-- A line for a case that has ended: only the status is painted. -/
theorem isColoring_progress (f : Formatter) (h : r.IsPlain) (done total : Nat) :
    IsColoring (f.progress r done total) (f.uncolored.progress r done total) := by
  have hlabel := isColoring_label f r.status
  have hname := isPlain_qualifiedName h
  have hmessage : IsPlain (if r.status = .pass then "" else after r.message) := by
    split
    · decide
    · exact isPlain_after h.message
  unfold progress
  repeat' with_reducible refine IsColoring.append ?_ ?_
  all_goals first
    | with_reducible exact hlabel
    | exact .refl (by with_reducible assumption)
    | exact .refl (by decide)
    | exact .refl (by simp)

/-- A failed case in the list after the table: only the status is painted. -/
theorem isColoring_failedLine (f : Formatter) (h : r.IsPlain) :
    IsColoring (f.failedLine r) (f.uncolored.failedLine r) := by
  have hlabel := isColoring_label f r.status
  have hname := isPlain_qualifiedName h
  have hmessage := isPlain_after h.message
  unfold failedLine
  repeat' with_reducible refine IsColoring.append ?_ ?_
  all_goals first
    | with_reducible exact hlabel
    | exact .refl (by with_reducible assumption)
    | exact .refl (by decide)

/-! ### Runs -/

/-- The row of a suite: its name is painted after it has been cut and padded. -/
theorem isColoring_row (f : Formatter) (h : IsPlain s.suite) :
    IsColoring (f.row s) (f.uncolored.row s) := by
  have hplain : IsPlain (padRight 32 (truncate 32 s.suite)) :=
    isPlain_padRight (isPlain_truncate h 32) 32
  have hname : IsColoring
      (if s.isSuccess then padRight 32 (truncate 32 s.suite)
        else f.paint .red (padRight 32 (truncate 32 s.suite)))
      (if s.isSuccess then padRight 32 (truncate 32 s.suite)
        else f.uncolored.paint .red (padRight 32 (truncate 32 s.suite))) := by
    split
    · exact .refl hplain
    · exact isColoring_paint f .red hplain
  unfold row
  dsimp only
  repeat' with_reducible refine IsColoring.append ?_ ?_
  all_goals first
    | with_reducible exact hname
    | exact .refl (by decide)
    | exact .refl (by simp [cell, percent, Double.fixed])

/-- The line that sums up a run: only the verdict is painted. -/
theorem isColoring_runLine (f : Formatter) (run : RunSummary) :
    IsColoring (f.runLine run) (f.uncolored.runLine run) := by
  have hverdict := isColoring_verdict f run
  unfold runLine
  dsimp only
  repeat' with_reducible refine IsColoring.append ?_ ?_
  all_goals first
    | with_reducible exact hverdict
    | exact .refl (by decide)
    | exact .refl (by simp [percent, Double.fixed])

theorem isColoring_failedList (f : Formatter) {failures : List CaseResult}
    (h : ∀ r ∈ failures, r.IsPlain) :
    IsColoring (f.failedList failures) (f.uncolored.failedList failures) := by
  rw [failedList, failedList]
  split
  · exact .refl (by decide)
  · exact (IsColoring.refl (by decide)).append
      (.join fun r hr => isColoring_failedLine f (h r hr))

set_option maxRecDepth 4096 in
theorem isPlain_tableTop : IsPlain tableTop := by
  refine isPlain_append.2 ⟨isPlain_append.2 ⟨isPlain_ofList.2 ?_, isPlain_ofList.2 ?_⟩,
    isPlain_ofList.2 ?_⟩
  · decide +kernel
  · decide +kernel
  · decide +kernel

set_option maxRecDepth 4096 in
theorem isPlain_tableBottom : IsPlain tableBottom := isPlain_ofList.2 (by decide +kernel)

/-- The table of a run with the list of its failures. -/
theorem isColoring_runTable (f : Formatter) (h : run.IsPlain) :
    IsColoring (f.runTable run) (f.uncolored.runTable run) := by
  have hrows : IsColoring (String.join (run.suites.map f.row))
      (String.join (run.suites.map f.uncolored.row)) :=
    .join fun s hs => isColoring_row f (h.suites s hs)
  have hfailures := isColoring_failedList f h.failures
  have hbreak : IsColoring "\n" "\n" := .refl (by decide)
  rw [runTable, runTable]
  have htable := hrows.between isPlain_tableTop isPlain_tableBottom
  exact (((htable.append hfailures).append hbreak).append (isColoring_runLine f run)).append hbreak

theorem isColoring_run (f : Formatter) (h : run.IsPlain) :
    IsColoring (f.run run) (f.uncolored.run run) := by
  have hformat : f.uncolored.format = f.format := rfl
  rw [Formatter.run, Formatter.run, hformat]
  cases f.format with
  | table => exact isColoring_runTable f h
  | json => exact .refl (Json.isPlain_compact _)
  | jsonPretty => exact .refl (Json.isPlain_prettyAt 0 _)
  | summary => exact isColoring_runLine f run

/-! ### Listings -/

/-- The line of a listed case: only the sign of a case that is skipped is painted. -/
theorem isColoring_listingLine (f : Formatter) (h : l.IsPlain) :
    IsColoring (f.listingLine l) (f.uncolored.listingLine l) := by
  have hsign : IsColoring (f.paint .yellow "○") (f.uncolored.paint .yellow "○") :=
    isColoring_paint f .yellow (by decide)
  rw [listingLine, listingLine]
  cases hskip : l.skip with
  | none => exact .refl (by simp +decide [h.name, h.model])
  | some reason =>
    have hname := h.name
    have hreason := h.skip reason hskip
    simp only
    repeat' with_reducible refine IsColoring.append ?_ ?_
    all_goals first
      | with_reducible exact hsign
      | exact .refl (by with_reducible assumption)
      | exact .refl (by decide)

theorem isColoring_listingLines (f : Formatter) {cases : List Listing}
    (h : ∀ l ∈ cases, l.IsPlain) (current : Option String) :
    IsColoring (f.listingLines current cases) (f.uncolored.listingLines current cases) := by
  induction cases generalizing current with
  | nil => exact .nil
  | cons l cases ih =>
    have hl := h l List.mem_cons_self
    have hhead : IsPlain (if current = some l.suite then "" else
        l.suite ++ " [" ++ l.testType ++ "]\n") := by
      split
      · decide
      · simp +decide [hl.suite, hl.testType]
    rw [listingLines, listingLines]
    exact ((IsColoring.refl hhead).append (isColoring_listingLine f hl)).append
      (ih (fun l' hl' => h l' (List.mem_cons_of_mem _ hl')) _)

theorem isColoring_listing (f : Formatter) {cases : List Listing} (h : ∀ l ∈ cases, l.IsPlain) :
    IsColoring (f.listing cases) (f.uncolored.listing cases) := by
  have hformat : f.uncolored.format = f.format := rfl
  have hlines := isColoring_listingLines f h none
  have hbreak : IsColoring "\n" "\n" := .refl (by decide)
  have hcount := IsColoring.refl (isPlain_repr cases.length)
  have hword : IsColoring " tests\n" " tests\n" := .refl (by decide)
  rw [listing, listing, hformat]
  cases f.format with
  | json => exact .refl (Json.isPlain_compact _)
  | jsonPretty => exact .refl (Json.isPlain_prettyAt 0 _)
  | table | summary => exact ((hlines.append hbreak).append hcount).append hword

/-- **Colors only decorate**: what is written about runs, results and cases is, without its color
sequences, what the formatter without colors writes. -/
theorem colors_only_decorate (f : Formatter) :
    (∀ run : RunSummary, run.IsPlain → withoutColors (f.run run) = f.uncolored.run run) ∧
    (∀ (r : CaseResult) (done total : Nat), r.IsPlain →
      withoutColors (f.progress r done total) = f.uncolored.progress r done total) ∧
    (∀ cases : List Listing, (∀ l ∈ cases, l.IsPlain) →
      withoutColors (f.listing cases) = f.uncolored.listing cases) := by
  refine ⟨fun run h => ?_, fun r done total h => ?_, fun cases h => ?_⟩
  · exact (isColoring_run f h).withoutColors_eq
  · exact (isColoring_progress f h done total).withoutColors_eq
  · exact (isColoring_listing f h).withoutColors_eq

/-- A case that has failed, in a run and by itself, and a case that will be skipped. -/
theorem paintedCases_plain_again :
    let f : Formatter := ⟨.table, true⟩
    let r : CaseResult := { CaseResult.plain "memh" "memh" "b" .fail with
      durationMs := 30, message := some "output differs" }
    let run := RunSummary.ofSuites [SuiteSummary.ofResults "memh" "memh" .epoch [r]] false
    let cases : List Listing := [⟨"memh", "default", "c", "c.py", some "no mpi"⟩]
    run.IsPlain ∧ r.IsPlain ∧ (∀ l ∈ cases, l.IsPlain) ∧
      withoutColors (f.run run) = f.uncolored.run run ∧
      f.progress r 2 12 = "[ 2/12] \x1b[31m✗ FAIL\x1b[0m memh.b (30ms) - output differs" ∧
      withoutColors (f.progress r 2 12) = "[ 2/12] ✗ FAIL memh.b (30ms) - output differs" ∧
      f.listing cases = "memh [default]\n  \x1b[33m○\x1b[0m c (no mpi)\n\n1 tests\n" ∧
      withoutColors (f.listing cases) = "memh [default]\n  ○ c (no mpi)\n\n1 tests\n" := by
  intro f r run cases
  have hr : r.IsPlain := ⟨by decide, by decide, by rintro m ⟨⟩; decide⟩
  have hrun : run.IsPlain := by
    refine ⟨fun s hs => ?_, fun r' hr' => ?_⟩
    · rw [List.mem_singleton.1 hs]
      decide
    · have hlist : run.failures = [r] := rfl
      rw [hlist] at hr'
      rw [List.mem_singleton.1 hr']
      exact hr
  have hcases : ∀ l ∈ cases, l.IsPlain := by
    intro l hl
    rw [List.mem_singleton.1 hl]
    exact ⟨by decide, by decide, by decide, by decide, by rintro m ⟨⟩; decide⟩
  obtain ⟨hruns, hresults, hlistings⟩ := colors_only_decorate f
  refine ⟨hrun, hr, hcases, hruns run hrun, by decide +kernel, ?_, by decide +kernel, ?_⟩
  · rw [hresults r 2 12 hr]
    decide +kernel
  · rw [hlistings cases hcases]
    decide +kernel

end Formatter

end SuiteRunner
