import Mathlib.Data.List.Induction
import Mathlib.Data.List.TakeWhile
import SuiteRunner.SimulatorConf

/-!
# The lines of the record of an installation

What a line of a record is depends on the lines before it: a line that starts with a blank goes on
with the value before it only if an assignment has come since the last header.

* `LineKind` and `Marked`, lines with the kinds that they have in their places;
* **`exists_marked`** and **`Marked.unique`** — lines can be marked, in one way;
* `Heads` and `Assigns`, what a header and an assignment say;
* `IsFaulty` and `FaultyAt`, the lines that are at fault in their places;
* **`ofTrimmed_ignored`**, `ofTrimmed_bracket` and `ofTrimmed_plain` — what is read from a line by
  itself.
-/

namespace SuiteRunner

open Text

/-! ### Kinds -/

/-- What a line of a record is in its place. -/
inductive LineKind where
  | ignored
  /-- The line goes on with the value of the assignment before it. -/
  | continuation
  | header
  | assignment
  deriving DecidableEq, Repr

/-- A line with its kind. -/
abbrev MarkedLine := LineKind × List Char

namespace SimulatorConf

variable {before after ms ms' : List MarkedLine} {m : MarkedLine} {kind kind' : LineKind}
  {line : List Char}

/-- The line is blank, or starts with a number sign or a semicolon. -/
def IsIgnored (line : List Char) : Prop :=
  trim line = [] ∨ (trim line).head? = some '#' ∨ (trim line).head? = some ';'

/-- An assignment has come since the last header. -/
def InEntry (ms : List MarkedLine) : Prop :=
  ∃ before line after, ms = before ++ (.assignment, line) :: after ∧ ∀ m ∈ after, m.1 ≠ .header

/-- The line has the kind after the lines before it. -/
structure HasKind (before : List MarkedLine) (line : List Char) (kind : LineKind) : Prop where
  ignored_iff : kind = .ignored ↔ IsIgnored line
  continuation_iff : kind = .continuation ↔
    ¬ IsIgnored line ∧ isIndented line = true ∧ InEntry before
  header_iff : kind = .header ↔
    kind ≠ .ignored ∧ kind ≠ .continuation ∧ (trim line).head? = some '['

/-- Every line has the kind with which it is marked. -/
def Marked (ms : List MarkedLine) : Prop :=
  ∀ before kind line after, ms = before ++ (kind, line) :: after → HasKind before line kind

/-! ### Lists that grow at the end -/

/-- Where a list with one more item is split: at this item, or before it. -/
theorem concat_eq_split {α : Type} {xs before after : List α} {x y : α} :
    xs ++ [y] = before ++ x :: after ↔
      (after = [] ∧ before = xs ∧ x = y) ∨
        ∃ rest, after = rest ++ [y] ∧ xs = before ++ x :: rest := by
  constructor
  · intro h
    cases after using List.reverseRecOn with
    | nil =>
      have hends := List.append_inj' h rfl
      exact .inl ⟨rfl, hends.1.symm, (List.singleton_inj.1 hends.2).symm⟩
    | append_singleton rest z =>
      rw [← List.cons_append, ← List.append_assoc] at h
      have hends := List.append_inj' h rfl
      rw [List.singleton_inj] at hends
      exact .inr ⟨rest, by rw [hends.2], hends.1⟩
  · rintro (⟨rfl, rfl, rfl⟩ | ⟨rest, rfl, rfl⟩)
    · rfl
    · simp

theorem inEntry_concat :
    InEntry (ms ++ [m]) ↔ m.1 = .assignment ∨ (m.1 ≠ .header ∧ InEntry ms) := by
  constructor
  · rintro ⟨before, line, after, hsplit, hafter⟩
    rcases concat_eq_split.1 hsplit with ⟨-, -, rfl⟩ | ⟨rest, rfl, hms⟩
    · exact .inl rfl
    · refine .inr ⟨hafter m (by simp), before, line, rest, hms, fun x hx => hafter x (by simp [hx])⟩
  · obtain ⟨kind, line⟩ := m
    rintro (hkind | ⟨hkind, before, first, rest, rfl, hrest⟩)
    · exact ⟨ms, line, [], by rw [← hkind], by simp⟩
    · refine ⟨before, first, rest ++ [(kind, line)], by simp, fun x hx => ?_⟩
      rcases List.mem_append.1 hx with hx | hx
      · exact hrest x hx
      · rw [List.mem_singleton.1 hx]
        exact hkind

theorem marked_concat : Marked (ms ++ [m]) ↔ Marked ms ∧ HasKind ms m.2 m.1 := by
  constructor
  · intro h
    refine ⟨fun before kind line after hms => ?_, h ms m.1 m.2 [] rfl⟩
    exact h before kind line (after ++ [m]) (by rw [hms]; simp)
  · rintro ⟨hms, hm⟩ before kind line after hsplit
    rcases concat_eq_split.1 hsplit with ⟨-, rfl, rfl⟩ | ⟨rest, -, hrest⟩
    · exact hm
    · exact hms before kind line rest hrest

/-- What is marked up to some line is marked. -/
theorem Marked.of_append (h : Marked (before ++ after)) : Marked before := by
  intro b kind line a hb
  exact h b kind line (a ++ after) (by rw [hb]; simp)

/-! ### Marking -/

/-- A line has some kind in its place. -/
theorem exists_hasKind (before : List MarkedLine) (line : List Char) :
    ∃ kind, HasKind before line kind := by
  by_cases hignored : IsIgnored line
  · exact ⟨.ignored, by simp [hignored], by simp [hignored], by simp⟩
  · by_cases hgoesOn : isIndented line = true ∧ InEntry before
    · exact ⟨.continuation, by simp [hignored], by simp [hignored, hgoesOn], by simp⟩
    · by_cases hbracket : (trim line).head? = some '['
      · exact ⟨.header, by simp [hignored], by simpa [hignored] using hgoesOn, by simp [hbracket]⟩
      · exact ⟨.assignment, by simp [hignored], by simpa [hignored] using hgoesOn,
          by simp [hbracket]⟩

theorem HasKind.unique (h : HasKind before line kind) (h' : HasKind before line kind') :
    kind = kind' := by
  have hignored := h.ignored_iff.trans h'.ignored_iff.symm
  have hcontinuation := h.continuation_iff.trans h'.continuation_iff.symm
  have hheader : kind = .header ↔ kind' = .header := by
    rw [h.header_iff, h'.header_iff, ne_eq, ne_eq, ne_eq, ne_eq, hignored, hcontinuation]
  cases kind <;> cases kind' <;> simp_all

/-- **Lines can be marked.** -/
theorem exists_marked (ls : List (List Char)) : ∃ ms, Marked ms ∧ ms.map Prod.snd = ls := by
  induction ls using List.reverseRecOn with
  | nil => exact ⟨[], by simp [Marked], rfl⟩
  | append_singleton ls line ih =>
    obtain ⟨ms, hms, rfl⟩ := ih
    obtain ⟨kind, hkind⟩ := exists_hasKind ms line
    exact ⟨ms ++ [(kind, line)], marked_concat.2 ⟨hms, hkind⟩, by simp⟩

/-- **Lines are marked in one way.** -/
theorem Marked.unique (h : Marked ms) (h' : Marked ms')
    (hlines : ms.map Prod.snd = ms'.map Prod.snd) :
    ms = ms' := by
  induction ms using List.reverseRecOn generalizing ms' with
  | nil => simpa using hlines.symm
  | append_singleton ms m ih =>
    cases ms' using List.reverseRecOn with
    | nil => simp at hlines
    | append_singleton ms' m' =>
      rw [List.map_append, List.map_append] at hlines
      obtain ⟨hfront, hlast⟩ := List.append_inj' hlines rfl
      obtain ⟨hms, hm⟩ := marked_concat.1 h
      obtain ⟨hms', hm'⟩ := marked_concat.1 h'
      obtain rfl := ih hms hms' hfront
      have hline : m.2 = m'.2 := by simpa using hlast
      rw [← hline] at hm'
      rw [Prod.ext (hm.unique hm') hline]

/-! ### What lines say -/

/-- The line is a name in brackets. -/
def Heads (line name : List Char) : Prop :=
  ∃ n, trim line = '[' :: n ++ [']'] ∧ name = trim n

/-- The line is a key and a value, with the first equals sign or colon between them. -/
def Assigns (line key value : List Char) : Prop :=
  ∃ k c v, trim line = k ++ c :: v ∧ (c = '=' ∨ c = ':') ∧ (∀ d ∈ k, d ≠ '=' ∧ d ≠ ':') ∧
    key = trim k ∧ value = trim v

/-- The line is at fault in its place: a header without a closing bracket, or an assignment that
comes before every header, has no separator, or has an empty key. -/
def IsFaulty (before : List MarkedLine) (m : MarkedLine) : Prop :=
  (m.1 = .header ∧ (trim m.2).getLast? ≠ some ']') ∨
    (m.1 = .assignment ∧
      ((∀ b ∈ before, b.1 ≠ .header) ∨ (∀ c ∈ trim m.2, c ≠ '=' ∧ c ≠ ':') ∨
        ∃ value, Assigns m.2 [] value))

/-- The line with the number `n` is at fault; lines count from 1. -/
def FaultyAt (ms : List MarkedLine) (n : Nat) : Prop :=
  ∃ before m after, ms = before ++ m :: after ∧ n = before.length + 1 ∧ IsFaulty before m

/-- A line that starts with a bracket has a name, or is not closed. -/
theorem ofTrimmed_bracket (h : (trim line).head? = some '[') :
    (∃ name, Heads line name ∧ ConfLine.ofTrimmed (trim line) = .header name) ∨
      ((trim line).getLast? ≠ some ']' ∧ ConfLine.ofTrimmed (trim line) = .openHeader) := by
  obtain ⟨rest, hrest⟩ := List.head?_eq_some_iff.1 h
  rw [hrest]
  cases rest using List.reverseRecOn with
  | nil => exact .inr ⟨by simp, rfl⟩
  | append_singleton n c =>
    by_cases hc : c = ']'
    · subst hc
      refine .inl ⟨trim n, ⟨n, hrest, rfl⟩, ?_⟩
      simp [ConfLine.ofTrimmed]
    · refine .inr ⟨?_, ?_⟩
      · rw [← List.cons_append, List.getLast?_concat]
        simpa using hc
      · rw [ConfLine.ofTrimmed, List.reverse_concat]
        split
        · rename_i heq
          exact absurd (List.cons.inj heq).1 hc
        · rfl

/-- A line that starts with no sign is an assignment, or has no separator. -/
theorem ofTrimmed_plain (hignored : ¬ IsIgnored line) (hbracket : (trim line).head? ≠ some '[') :
    (∃ key value, Assigns line key value ∧ ConfLine.ofTrimmed (trim line) = .entry key value) ∨
      ((∀ c ∈ trim line, c ≠ '=' ∧ c ≠ ':') ∧
        ConfLine.ofTrimmed (trim line) = .noSeparator) := by
  have hopen : ConfLine.ofTrimmed (trim line) =
      (((trim line).dropWhile fun c => c != '=' && c != ':').head?.elim .noSeparator fun _ =>
        .entry (trim ((trim line).takeWhile fun c => c != '=' && c != ':'))
          (trim ((trim line).dropWhile fun c => c != '=' && c != ':').tail)) := by
    simp only [IsIgnored, not_or] at hignored
    obtain ⟨hnil, hsharp, hsemicolon⟩ := hignored
    cases htext : trim line with
    | nil => exact absurd htext hnil
    | cons c s =>
      rw [htext] at hsharp hsemicolon hbracket
      simp only [List.head?_cons, ne_eq, Option.some.injEq] at hsharp hsemicolon hbracket
      unfold ConfLine.ofTrimmed
      split
      · rename_i heq
        cases heq
      · rename_i heq
        exact absurd (List.cons.inj heq).1 hsharp
      · rename_i heq
        exact absurd (List.cons.inj heq).1 hsemicolon
      · rename_i heq
        exact absurd (List.cons.inj heq).1 hbracket
      · generalize List.dropWhile _ _ = rest
        cases rest <;> rfl
  rw [hopen]
  have hsplit :=
    List.takeWhile_append_dropWhile (p := fun c => c != '=' && c != ':') (l := trim line)
  have hkey : ∀ d ∈ (trim line).takeWhile fun c => c != '=' && c != ':', d ≠ '=' ∧ d ≠ ':' := by
    intro d hd
    simpa using List.mem_takeWhile_imp hd
  cases hrest : (trim line).dropWhile fun c => c != '=' && c != ':' with
  | nil =>
    rw [hrest, List.append_nil] at hsplit
    rw [hsplit] at hkey
    exact .inr ⟨hkey, rfl⟩
  | cons c v =>
    have hc : ¬ (c != '=' && c != ':') = true := by
      have hhead := List.head?_dropWhile_not (fun c => c != '=' && c != ':') (trim line)
      rw [hrest] at hhead
      simpa using hhead
    rw [hrest] at hsplit
    refine .inl ⟨_, trim v, ⟨_, c, v, hsplit.symm, ?_, hkey, rfl, rfl⟩, rfl⟩
    simp only [Bool.and_eq_true, bne_iff_ne, ne_eq, not_and, not_not] at hc
    exact or_iff_not_imp_left.2 hc

/-- **Nothing is read from the lines that are ignored**, and from no other ones. -/
theorem ofTrimmed_ignored : IsIgnored line ↔ ConfLine.ofTrimmed (trim line) = .idle := by
  constructor
  · rintro (h | h | h)
    · rw [h]
      rfl
    · obtain ⟨s, hs⟩ := List.head?_eq_some_iff.1 h
      rw [hs]
      rfl
    · obtain ⟨s, hs⟩ := List.head?_eq_some_iff.1 h
      rw [hs]
      rfl
  · intro h
    by_contra hignored
    by_cases hbracket : (trim line).head? = some '['
    · rcases ofTrimmed_bracket hbracket with ⟨name, -, hname⟩ | ⟨-, hopen⟩
      · rw [h] at hname
        cases hname
      · rw [h] at hopen
        cases hopen
    · rcases ofTrimmed_plain hignored hbracket with ⟨key, value, -, hentry⟩ | ⟨-, hnone⟩
      · rw [h] at hentry
        cases hentry
      · rw [h] at hnone
        cases hnone

theorem Heads.unique {name name' : List Char} (h : Heads line name) (h' : Heads line name') :
    name = name' := by
  obtain ⟨n, hn, rfl⟩ := h
  obtain ⟨n', hn', rfl⟩ := h'
  rw [hn] at hn'
  have hcons : n ++ [']'] = n' ++ [']'] := (List.cons.inj hn').2
  rw [(List.append_inj' hcons rfl).1]

/-- The key ends at the first separator. -/
theorem Assigns.unique {key key' value value' : List Char} (h : Assigns line key value)
    (h' : Assigns line key' value') : key = key' ∧ value = value' := by
  obtain ⟨k, c, v, hline, hc, hk, rfl, rfl⟩ := h
  obtain ⟨k', c', v', hline', hc', hk', rfl, rfl⟩ := h'
  rw [hline] at hline'
  rcases List.append_eq_append_iff.1 hline' with ⟨l, rfl, hl⟩ | ⟨l, rfl, hl⟩
  all_goals
    cases l with
    | nil => simp_all
    | cons d l =>
      obtain ⟨rfl, -⟩ := List.cons.inj hl
      simp_all

end SimulatorConf

end SuiteRunner
