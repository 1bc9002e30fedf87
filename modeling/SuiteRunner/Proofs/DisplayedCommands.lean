import Mathlib.Data.List.TakeWhile
import SuiteRunner.Process.Command

/-!
# What a displayed command shows

A command on one line tells what is started as long as each part of the line shows where it ends.
Three things are in the way of that.  The program stands there without quotation marks, even with
spaces in its name.  An argument without white space stands there without them, too, even if it
starts with such a mark itself.  In quotation marks, a backslash is put before the marks of the
argument, but not before a backslash at its end, which then seems to belong to the mark that closes.

* `InQuotes`, the arguments that are put in quotation marks, and `ShowsEnd`, those that show where
  they end;
* `readArg?`, which reads an argument from the front of a line;
* **`readArg?_quoted`** — the step: an argument that shows its end is read as it was;
* **`eq_of_joined_eq`** — the run: a line shows all such arguments;
* **`display_eq_iff`** — commands whose parts show their ends look alike only if they start the
  same;
* `lookalikes`, commands of each of the three kinds that look alike.
-/

namespace SuiteRunner.Command

open Text Unicode

variable {c d : Command} {a : String} {s word rest : List Char}

/-! ### Arguments in quotation marks -/

/-- The arguments that are put in quotation marks: empty ones, and ones with white space in them. -/
def InQuotes (arg : String) : Prop := arg = "" ∨ ∃ c ∈ arg.toList, isWhite c = true

/-- A text with a backslash before each quotation mark. -/
def withBackslashes (s : List Char) : List Char :=
  s.flatMap fun c => if c = '"' then ['\\', '"'] else [c]

theorem replaceAll_quote (s : List Char) : replaceAll ['"'] ['\\', '"'] s = withBackslashes s := by
  have nonempty : ['"'] ≠ [] := List.cons_ne_nil _ _
  induction s with
  | nil => exact replaceAll_nil nonempty
  | cons c s ih =>
    rw [withBackslashes, List.flatMap_cons, ← withBackslashes, ← ih]
    by_cases hc : c = '"'
    · rw [if_pos hc, hc]
      exact replaceAll_prefix_append nonempty _ s
    · rw [if_neg hc]
      exact replaceAll_cons_of_not_prefix nonempty fun h => hc (List.cons_prefix_cons.1 h).1.symm

theorem inQuotes_iff (a : String) :
    InQuotes a ↔ (a.isEmpty || a.toList.any isWhite) = true := by
  rw [Bool.or_eq_true, String.isEmpty_iff, List.any_eq_true, InQuotes]

instance : DecidablePred InQuotes := fun a => decidable_of_iff' _ (inQuotes_iff a)

theorem quoted_of_inQuotes (h : InQuotes a) :
    (quoted a).toList = '"' :: (withBackslashes a.toList ++ ['"']) := by
  rw [quoted, if_pos ((inQuotes_iff a).1 h), replaceAll_quote]
  simp

theorem quoted_of_not_inQuotes (h : ¬ InQuotes a) : quoted a = a := by
  rw [quoted, if_neg fun hquotes => h ((inQuotes_iff a).2 hquotes)]

/-! ### Reading an argument -/

/-- The text up to the next quotation mark that has no backslash before it, and what comes after. -/
def readQuoted? : List Char → Option (List Char × List Char)
  | [] => none
  | '\\' :: '"' :: s => (readQuoted? s).map fun (arg, rest) => ('"' :: arg, rest)
  | '"' :: s => some ([], s)
  | c :: s => (readQuoted? s).map fun (arg, rest) => (c :: arg, rest)

/-- The text up to the next space, and what comes after. -/
def readWord (s : List Char) : List Char × List Char :=
  (s.takeWhile (· ≠ ' '), s.dropWhile (· ≠ ' '))

/-- The argument at the front of a line, and what comes after. -/
def readArg? : List Char → Option (List Char × List Char)
  | '"' :: s => readQuoted? s
  | s => some (readWord s)

/-- What may come after a part of the line: the space before the next one, or nothing. -/
def EndsPart (rest : List Char) : Prop := ∀ c ∈ rest.head?, c = ' '

theorem readWord_append (hword : ' ' ∉ word) (ends : EndsPart rest) :
    readWord (word ++ rest) = (word, rest) := by
  have hstays : ∀ c ∈ word, decide (c ≠ ' ') = true := by
    intro c hc
    exact decide_eq_true fun hspace => hword (hspace ▸ hc)
  rw [readWord, List.takeWhile_append_of_pos hstays, List.dropWhile_append_of_pos hstays]
  cases rest with
  | nil => simp
  | cons c rest =>
    obtain rfl : c = ' ' := ends c rfl
    simp

/-- A text in quotation marks is read up to the mark that closes, if it does not end with a backslash:
each mark inside has a backslash before it, and the one that closes has none. -/
theorem readQuoted?_withBackslashes (hend : s.getLast? ≠ some '\\') (rest : List Char) :
    readQuoted? (withBackslashes s ++ '"' :: rest) = some (s, rest) := by
  induction s with
  | nil => rfl
  | cons c s ih =>
    have hs : s.getLast? ≠ some '\\' := by
      intro hlast
      cases s with
      | nil => cases hlast
      | cons d s => exact hend (by rw [List.getLast?_cons_cons, hlast])
    have hrest := ih hs
    rw [withBackslashes, List.flatMap_cons, ← withBackslashes]
    by_cases hquote : c = '"'
    · rw [if_pos hquote, hquote]
      show (readQuoted? (withBackslashes s ++ '"' :: rest)).map _ = _
      rw [hrest]
      rfl
    · rw [if_neg hquote, List.singleton_append, List.cons_append]
      -- What follows a backslash is no bare quotation mark, so the backslash stands for itself.
      have hnext : ∀ t, c = '\\' → withBackslashes s ++ '"' :: rest = '"' :: t → False := by
        intro t hc hfront
        cases s with
        | nil => exact hend (by rw [hc]; rfl)
        | cons d s =>
          rw [withBackslashes, List.flatMap_cons] at hfront
          by_cases hd : d = '"'
          · rw [if_pos hd] at hfront
            cases hfront
          · rw [if_neg hd] at hfront
            exact hd (List.cons.inj hfront).1
      rw [readQuoted?, hrest]
      · rfl
      · exact hnext
      · exact hquote

/-! ### Arguments that show where they end -/

/-- In quotation marks, an argument shows its end if it does not end with a backslash; without them,
if it does not start with a quotation mark. -/
structure ShowsEnd (arg : String) : Prop where
  closed : InQuotes arg → arg.toList.getLast? ≠ some '\\'
  bare : ¬ InQuotes arg → arg.toList.head? ≠ some '"'

instance : DecidablePred ShowsEnd := fun arg =>
  decidable_of_iff ((InQuotes arg → arg.toList.getLast? ≠ some '\\') ∧
    (¬ InQuotes arg → arg.toList.head? ≠ some '"'))
    ⟨fun h => ⟨h.1, h.2⟩, fun h => ⟨h.closed, h.bare⟩⟩

/-- **The step**: an argument that shows its end is read from the front of a line as it was. -/
theorem readArg?_quoted (h : ShowsEnd a) (ends : EndsPart rest) :
    readArg? ((quoted a).toList ++ rest) = some (a.toList, rest) := by
  by_cases hquotes : InQuotes a
  · rw [quoted_of_inQuotes hquotes, List.cons_append, List.append_assoc, List.singleton_append]
    exact readQuoted?_withBackslashes (h.closed hquotes) rest
  · have hfront := h.bare hquotes
    have hword : ' ' ∉ a.toList := fun hspace => hquotes (.inr ⟨' ', hspace, by decide⟩)
    have hnot : ∀ t, a.toList ++ rest = '"' :: t → False := by
      intro t hstart
      cases hlist : a.toList with
      | nil => exact hquotes (.inl (String.toList_eq_nil_iff.1 hlist))
      | cons x xs =>
        rw [hlist, List.cons_append] at hstart
        rw [hlist, (List.cons.inj hstart).1] at hfront
        exact hfront rfl
    rw [quoted_of_not_inQuotes hquotes, readArg?, readWord_append hword ends]
    exact hnot

/-- Arguments on a line, each after a space. -/
def joined (args : List String) : List Char := args.flatMap fun a => ' ' :: (quoted a).toList

theorem endsPart_joined (args : List String) : EndsPart (joined args) := by
  intro c hc
  cases args with
  | nil => cases hc
  | cons a args =>
    rw [joined, List.flatMap_cons, List.cons_append, List.head?_cons] at hc
    exact (Option.some.inj hc).symm

/-- **The run**: a line shows all its arguments, if each of them shows its end. -/
theorem eq_of_joined_eq {as bs : List String} (has : ∀ a ∈ as, ShowsEnd a)
    (hbs : ∀ b ∈ bs, ShowsEnd b) (h : joined as = joined bs) : as = bs := by
  induction as generalizing bs with
  | nil =>
    cases bs with
    | nil => rfl
    | cons b bs => cases h
  | cons a as ih =>
    cases bs with
    | nil => cases h
    | cons b bs =>
      have hline : (quoted a).toList ++ joined as = (quoted b).toList ++ joined bs :=
        (List.cons.inj h).2
      have ha := readArg?_quoted (has a List.mem_cons_self) (endsPart_joined as)
      have hb := readArg?_quoted (hbs b List.mem_cons_self) (endsPart_joined bs)
      rw [hline, hb, Option.some.injEq, Prod.mk.injEq] at ha
      rw [String.toList_inj.1 ha.1, ih (fun x hx => has x (List.mem_cons_of_mem _ hx))
        (fun x hx => hbs x (List.mem_cons_of_mem _ hx)) ha.2.symm]

/-! ### Commands -/

/-- A command whose parts show where they end. -/
structure IsLegible (c : Command) : Prop where
  program : ' ' ∉ c.program.toList
  args : ∀ a ∈ c.argv, ShowsEnd a

instance : DecidablePred IsLegible := fun c =>
  decidable_of_iff (' ' ∉ c.program.toList ∧ ∀ a ∈ c.argv, ShowsEnd a)
    ⟨fun h => ⟨h.1, h.2⟩, fun h => ⟨h.program, h.args⟩⟩

theorem toList_display (c : Command) : c.display.toList = c.program.toList ++ joined c.argv := by
  have hspaced : ∀ a : String, (" " ++ quoted a).toList = ' ' :: (quoted a).toList := by
    intro a
    rw [String.toList_append]
    rfl
  rw [display, String.toList_append, String.toList_join, List.flatMap_map, funext hspaced]
  rfl

/-- **Legible commands are displayed alike** only if they start the same program with the same
arguments. -/
theorem display_eq_iff (hc : c.IsLegible) (hd : d.IsLegible) :
    c.display = d.display ↔ c.program = d.program ∧ c.argv = d.argv := by
  constructor
  · intro h
    have hline : c.program.toList ++ joined c.argv = d.program.toList ++ joined d.argv := by
      rw [← toList_display, ← toList_display, h]
    have hread := readWord_append hc.program (endsPart_joined c.argv)
    rw [hline, readWord_append hd.program (endsPart_joined d.argv), Prod.mk.injEq] at hread
    exact ⟨String.toList_inj.1 hread.1.symm, eq_of_joined_eq hc.args hd.args hread.2.symm⟩
  · rintro ⟨hprogram, hargv⟩
    rw [display, display, hprogram, hargv]

/-- Calls with quotation marks, backslashes, white space and nothing in their arguments. -/
theorem oddCalls_told_apart :
    let c : Command := { plain "sst" "m.py" with args := ["", "a\"b", "C:\\dir", "\\\" x"] }
    let d : Command := { plain "sst" "m.py" with args := ["", "a\"b C:\\dir", "\\\" x"] }
    c.IsLegible ∧ d.IsLegible ∧ c.argv ≠ d.argv ∧ c.display ≠ d.display := by
  intro c d
  have hc : c.IsLegible := by decide +kernel
  have hd : d.IsLegible := by decide +kernel
  have hargv : c.argv ≠ d.argv := by decide +kernel
  exact ⟨hc, hd, hargv, fun h => hargv ((display_eq_iff hc hd).1 h).2⟩

/-- Different calls that look alike: with a space in the name of the program, with quotation marks
around two arguments together, and with a backslash at the end of an argument in quotation marks. -/
theorem lookalikes :
    let call := fun args : List String => ({ plain "sst" "m" with args := args } : Command)
    ((plain "sst -v" "m").display = "sst -v m" ∧ (call ["-v"]).display = "sst -v m" ∧
      (plain "sst -v" "m").program ≠ (call ["-v"]).program) ∧
    ((call ["\"a", "b\""]).display = "sst \"a b\" m" ∧ (call ["a b"]).display = "sst \"a b\" m" ∧
      (call ["\"a", "b\""]).argv ≠ (call ["a b"]).argv) ∧
    ((call ["a \\", "b\""]).display = "sst \"a \\\" b\" m" ∧
      (call ["a \" b"]).display = "sst \"a \\\" b\" m" ∧
      (call ["a \\", "b\""]).argv ≠ (call ["a \" b"]).argv) := by
  decide +kernel

end SuiteRunner.Command
