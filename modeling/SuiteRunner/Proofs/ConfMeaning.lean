import Mathlib.Data.Char
import Mathlib.Data.List.Lex
import Mathlib.Data.List.Nodup
import SuiteRunner.Proofs.ConfLines

/-!
# What the record of an installation says

A record is read line by line.  What it says can be told without reading it in order: a section is
there if a header names it, and a key has the value of the last assignment to it in any block of its
section, with the lines that go on with that assignment.

* `OpenAt`, `AssignedAt` and `HasValue`, the meaning of marked lines;
* `get?_startSection`, `get?_assign` and `get?_extend`, what the steps of the reader change;
* `Stands` — the progress of the reader is that of the lines before; `step_of_stands` is the step
  and `run_of_stands` the run;
* **`parse_means`** — which texts are read, which line is reported otherwise, and what a record
  says.
-/

namespace SuiteRunner.SimulatorConf

open Text

variable {before after ms : List MarkedLine} {m : MarkedLine} {kind : LineKind}
  {line s k v key value name : List Char} {c : SimulatorConf} {p : Progress}

/-! ### The meaning of marked lines -/

/-- The last header names the section. -/
def OpenAt (ms : List MarkedLine) (s : List Char) : Prop :=
  ∃ before line after, ms = before ++ (.header, line) :: after ∧ Heads line s ∧
    ∀ m ∈ after, m.1 ≠ .header

/-- The line between `before` and `after` assigns the value to the key of the section. -/
structure AssignedAt (ms before : List MarkedLine) (line : List Char) (after : List MarkedLine)
    (s k value : List Char) : Prop where
  split : ms = before ++ (.assignment, line) :: after
  opened : OpenAt before s
  assigns : Assigns line k value

/-- The line neither starts a section nor assigns anything. -/
def IsQuiet (m : MarkedLine) : Bool := m.1 = .ignored || m.1 = .continuation

/-- What an assignment is continued with: the lines that go on with it, up to the next header or
assignment, each after a line feed. -/
def continued (after : List MarkedLine) : List Char :=
  ((after.takeWhile IsQuiet).filter fun m => m.1 = .continuation).flatMap fun m => '\n' :: trim m.2

/-- The key has the value in the section: its last assignment there gives it, with what continues
that assignment. -/
def HasValue (ms : List MarkedLine) (s k v : List Char) : Prop :=
  ∃ before line after value, AssignedAt ms before line after s k value ∧
    (∀ before' line' after' value', AssignedAt ms before' line' after' s k value' →
      before'.length ≤ before.length) ∧
    v = value ++ continued after

/-- Some assignment gives the key a value in the section. -/
def IsAssigned (ms : List MarkedLine) (s k : List Char) : Prop :=
  ∃ before line after value, AssignedAt ms before line after s k value

/-- The record says what the marked lines mean. -/
structure Means (c : SimulatorConf) (ms : List MarkedLine) : Prop where
  /-- The sections are sorted, and none is there twice. -/
  sorted : c.sectionNames.Pairwise (· < ·)
  mem_sections : ∀ s, s ∈ c.sectionNames ↔ ∃ line, (.header, line) ∈ ms ∧ Heads line s
  get?_eq_some : ∀ s k v, c.get? s k = some v ↔ HasValue ms s k v
  get?_eq_none : ∀ s k, c.get? s k = none ↔ ¬ IsAssigned ms s k
  hasElement_iff : ∀ n, c.hasElement n = true ↔
    IsAssigned ms "SST_ELEMENT_SOURCE".toList n ∨ IsAssigned ms "SST_ELEMENT_TESTS".toList n

/-! ### One more line -/

theorem openAt_concat :
    OpenAt (ms ++ [m]) s ↔ (m.1 = .header ∧ Heads m.2 s) ∨ (m.1 ≠ .header ∧ OpenAt ms s) := by
  constructor
  · rintro ⟨before, line, after, hsplit, hheads, hafter⟩
    rcases concat_eq_split.1 hsplit with ⟨-, -, rfl⟩ | ⟨rest, rfl, hms⟩
    · exact .inl ⟨rfl, hheads⟩
    · exact .inr ⟨hafter m (by simp), before, line, rest, hms, hheads,
        fun x hx => hafter x (by simp [hx])⟩
  · obtain ⟨kind, line⟩ := m
    rintro (⟨hkind, hheads⟩ | ⟨hkind, before, first, rest, rfl, hheads, hrest⟩)
    · exact ⟨ms, line, [], by rw [← hkind], hheads, by simp⟩
    · refine ⟨before, first, rest ++ [(kind, line)], by simp, hheads, fun x hx => ?_⟩
      rcases List.mem_append.1 hx with hx | hx
      · exact hrest x hx
      · rw [List.mem_singleton.1 hx]
        exact hkind

/-- One section is open at most. -/
theorem OpenAt.unique {s' : List Char} (h : OpenAt ms s) (h' : OpenAt ms s') : s = s' := by
  induction ms using List.reverseRecOn with
  | nil =>
    obtain ⟨before, line, after, hsplit, -⟩ := h
    simp at hsplit
  | append_singleton ms m ih =>
    rcases openAt_concat.1 h with ⟨hkind, hheads⟩ | ⟨hkind, h⟩
    · rcases openAt_concat.1 h' with ⟨-, hheads'⟩ | ⟨hkind', -⟩
      · exact hheads.unique hheads'
      · exact absurd hkind hkind'
    · rcases openAt_concat.1 h' with ⟨hkind', -⟩ | ⟨-, h'⟩
      · exact absurd hkind' hkind
      · exact ih h h'

theorem assignedAt_concat :
    AssignedAt (ms ++ [m]) before line after s k value ↔
      (after = [] ∧ before = ms ∧ m = (.assignment, line) ∧ OpenAt ms s ∧ Assigns line k value) ∨
        ∃ rest, after = rest ++ [m] ∧ AssignedAt ms before line rest s k value := by
  constructor
  · rintro ⟨hsplit, hopen, hassigns⟩
    rcases concat_eq_split.1 hsplit with ⟨rfl, rfl, hm⟩ | ⟨rest, rfl, hms⟩
    · exact .inl ⟨rfl, rfl, hm.symm, hopen, hassigns⟩
    · exact .inr ⟨rest, rfl, hms, hopen, hassigns⟩
  · rintro (⟨rfl, rfl, rfl, hopen, hassigns⟩ | ⟨rest, rfl, hsplit, hopen, hassigns⟩)
    · exact ⟨rfl, hopen, hassigns⟩
    · exact ⟨by simp [hsplit], hopen, hassigns⟩

/-- An assignment is continued as long as no header and no other assignment comes. -/
theorem continued_concat :
    continued (after ++ [m]) =
      if after.all IsQuiet ∧ m.1 = .continuation then continued after ++ '\n' :: trim m.2
      else continued after := by
  unfold continued
  by_cases hquiet : after.all IsQuiet
  · have htake : after.takeWhile IsQuiet = after := by
      rw [List.takeWhile_eq_self_iff]
      simpa using hquiet
    rw [List.takeWhile_append_of_pos (by simpa using hquiet), htake]
    cases hkind : m.1 <;> simp [IsQuiet, hkind, hquiet]
  · rw [if_neg (fun h => hquiet h.1), List.takeWhile_append, if_neg]
    intro hlength
    apply hquiet
    rw [List.all_eq_true]
    have hself := (List.takeWhile_prefix IsQuiet).eq_of_length hlength
    exact fun x hx => List.mem_takeWhile_imp (hself ▸ hx)

theorem isAssigned_concat :
    IsAssigned (ms ++ [m]) s k ↔
      (m.1 = .assignment ∧ OpenAt ms s ∧ ∃ value, Assigns m.2 k value) ∨ IsAssigned ms s k := by
  constructor
  · rintro ⟨before, line, after, value, h⟩
    rcases assignedAt_concat.1 h with ⟨-, -, rfl, hopen, hassigns⟩ | ⟨rest, -, h⟩
    · exact .inl ⟨rfl, hopen, value, hassigns⟩
    · exact .inr ⟨before, line, rest, value, h⟩
  · obtain ⟨kind, line⟩ := m
    rintro (⟨hkind, hopen, value, hassigns⟩ | ⟨before, first, rest, value, h⟩)
    · exact ⟨ms, line, [], value, assignedAt_concat.2
        (.inl ⟨rfl, rfl, by rw [← hkind], hopen, hassigns⟩)⟩
    · exact ⟨before, first, rest ++ [(kind, line)], value,
        assignedAt_concat.2 (.inr ⟨rest, rfl, h⟩)⟩

/-- **The last assignment decides**, and what continues it. -/
theorem hasValue_concat_assignment (hopen : OpenAt ms s) (hassigns : Assigns line k value) :
    HasValue (ms ++ [(.assignment, line)]) s k v ↔ v = value := by
  have hlast : AssignedAt (ms ++ [(.assignment, line)]) ms line [] s k value :=
    assignedAt_concat.2 (.inl ⟨rfl, rfl, rfl, hopen, hassigns⟩)
  constructor
  · rintro ⟨before, first, after, value', h, hmax, rfl⟩
    rcases assignedAt_concat.1 h with ⟨rfl, rfl, hline, -, hassigns'⟩ | ⟨rest, rfl, hearlier⟩
    · cases hline
      rw [(hassigns.unique hassigns').2]
      simp [continued]
    · -- An earlier assignment is not the last one.
      have hle := hmax ms line [] value hlast
      rw [hearlier.split] at hle
      simp only [List.length_append, List.length_cons] at hle
      omega
  · rintro rfl
    refine ⟨ms, line, [], v, hlast, fun before' line' after' value' h => ?_, by simp [continued]⟩
    have hlength := congrArg List.length h.split
    simp only [List.length_append, List.length_cons, List.length_nil] at hlength
    omega

/-- A line that assigns nothing to the key leaves its last assignment as it is. -/
theorem hasValue_concat_of_not
    (hnot : ¬ (m.1 = .assignment ∧ OpenAt ms s ∧ ∃ value, Assigns m.2 k value)) :
    HasValue (ms ++ [m]) s k v ↔
      ∃ before line after value, AssignedAt ms before line after s k value ∧
        (∀ before' line' after' value', AssignedAt ms before' line' after' s k value' →
          before'.length ≤ before.length) ∧
        v = value ++ continued (after ++ [m]) := by
  have hearlier : ∀ {before line after value}, AssignedAt (ms ++ [m]) before line after s k value →
      ∃ rest, after = rest ++ [m] ∧ AssignedAt ms before line rest s k value := by
    intro before line after value h
    rcases assignedAt_concat.1 h with ⟨-, -, rfl, hopen, hassigns⟩ | hrest
    · exact absurd ⟨rfl, hopen, value, hassigns⟩ hnot
    · exact hrest
  constructor
  · rintro ⟨before, line, after, value, h, hmax, hv⟩
    obtain ⟨rest, rfl, hrest⟩ := hearlier h
    refine ⟨before, line, rest, value, hrest, fun b l a w hb => ?_, hv⟩
    exact hmax b l (a ++ [m]) w (assignedAt_concat.2 (.inr ⟨a, rfl, hb⟩))
  · rintro ⟨before, line, rest, value, h, hmax, hv⟩
    refine ⟨before, line, rest ++ [m], value, assignedAt_concat.2 (.inr ⟨rest, rfl, h⟩), ?_, hv⟩
    intro b l a w hb
    obtain ⟨a, -, hb⟩ := hearlier hb
    exact hmax b l a w hb

/-- Lines that are ignored and headers leave all values as they are. -/
theorem hasValue_concat_of_idle (hassignment : m.1 ≠ .assignment)
    (hcontinuation : m.1 ≠ .continuation) :
    HasValue (ms ++ [m]) s k v ↔ HasValue ms s k v := by
  rw [hasValue_concat_of_not fun h => hassignment h.1]
  simp only [continued_concat, hcontinuation, and_false, if_false]
  rfl

/-- The key of the section was assigned last, and its value can be continued. -/
def InEntryOf (ms : List MarkedLine) (s k : List Char) : Prop :=
  ∃ before line after value, AssignedAt ms before line after s k value ∧ after.all IsQuiet = true

theorem InEntryOf.inEntry (h : InEntryOf ms s k) : InEntry ms := by
  obtain ⟨before, line, after, value, h, hquiet⟩ := h
  refine ⟨before, line, after, h.split, fun x hx hheader => ?_⟩
  have hx := List.all_eq_true.1 hquiet x hx
  simp [IsQuiet, hheader] at hx

theorem InEntryOf.concat (h : InEntryOf ms s k) (hm : IsQuiet m = true) :
    InEntryOf (ms ++ [m]) s k := by
  obtain ⟨before, line, after, value, h, hquiet⟩ := h
  exact ⟨before, line, after ++ [m], value, assignedAt_concat.2 (.inr ⟨after, rfl, h⟩),
    by simp [hquiet, hm]⟩

/-- **An assignment after which only quiet lines come is the last one of all.** -/
theorem AssignedAt.eq_of_quiet {before' after' : List MarkedLine} {line' s' k' value' : List Char}
    (h : AssignedAt ms before line after s k value) (hquiet : after.all IsQuiet = true)
    (h' : AssignedAt ms before' line' after' s' k' value')
    (hlength : before.length ≤ before'.length) :
    before' = before ∧ after' = after ∧ s' = s ∧ k' = k ∧ value' = value := by
  have hsplit := h.split.symm.trans h'.split
  have heq : before.length = before'.length := by
    rcases List.append_eq_append_iff.1 hsplit with ⟨l, rfl, hl⟩ | ⟨l, rfl, hl⟩
    · cases l with
      | nil => simp
      | cons x l =>
        -- The other assignment would be among the quiet lines.
        obtain ⟨-, rfl⟩ := List.cons.inj hl
        simp [IsQuiet] at hquiet
    · rw [List.length_append] at hlength ⊢
      omega
  obtain ⟨rfl, hrest⟩ := List.append_inj hsplit heq
  obtain ⟨hline, rfl⟩ := List.cons.inj hrest
  obtain rfl := (Prod.ext_iff.1 hline).2
  have hassigns := h'.assigns.unique h.assigns
  exact ⟨rfl, rfl, h'.opened.unique h.opened, hassigns.1, hassigns.2⟩

/-- **A continuation goes on with the value that was assigned last**, and with no other one. -/
theorem hasValue_concat_continuation (h : InEntryOf ms s k) (s' k' v' : List Char) :
    HasValue (ms ++ [(.continuation, line)]) s' k' v' ↔
      if s' = s ∧ k' = k then ∃ v, HasValue ms s k v ∧ v' = v ++ '\n' :: trim line
      else HasValue ms s' k' v' := by
  obtain ⟨before, first, after, value, h, hquiet⟩ := h
  have hnot : ¬ (LineKind.continuation = .assignment ∧ OpenAt ms s' ∧
      ∃ value, Assigns line k' value) := by simp
  rw [hasValue_concat_of_not (m := (.continuation, line)) hnot]
  by_cases hplace : s' = s ∧ k' = k
  · obtain ⟨rfl, rfl⟩ := hplace
    rw [if_pos ⟨rfl, rfl⟩]
    -- The last assignment is the one that is continued.
    have hlast : ∀ {b l a w}, AssignedAt ms b l a s' k' w →
        (∀ b' l' a' w', AssignedAt ms b' l' a' s' k' w' → b'.length ≤ b.length) → a = after :=
      fun hb hmax => (h.eq_of_quiet hquiet hb (hmax _ _ _ _ h)).2.1
    constructor
    · rintro ⟨b, l, a, w, hb, hmax, rfl⟩
      obtain rfl := hlast hb hmax
      refine ⟨w ++ continued a, ⟨b, l, a, w, hb, hmax, rfl⟩, ?_⟩
      rw [continued_concat, if_pos ⟨hquiet, rfl⟩, List.append_assoc]
    · rintro ⟨v, ⟨b, l, a, w, hb, hmax, rfl⟩, rfl⟩
      obtain rfl := hlast hb hmax
      refine ⟨b, l, a, w, hb, hmax, ?_⟩
      rw [continued_concat, if_pos ⟨hquiet, rfl⟩, List.append_assoc]
  · rw [if_neg hplace]
    -- No other assignment has only quiet lines after it.
    have hloud : ∀ {b l a w}, AssignedAt ms b l a s' k' w → ¬ a.all IsQuiet = true := by
      intro b l a w hb hall
      rcases Nat.le_total before.length b.length with hle | hle
      · obtain ⟨-, -, hs, hk, -⟩ := h.eq_of_quiet hquiet hb hle
        exact hplace ⟨hs, hk⟩
      · obtain ⟨-, -, hs, hk, -⟩ := hb.eq_of_quiet hall h hle
        exact hplace ⟨hs.symm, hk.symm⟩
    constructor
    · rintro ⟨b, l, a, w, hb, hmax, rfl⟩
      refine ⟨b, l, a, w, hb, hmax, ?_⟩
      rw [continued_concat, if_neg fun hall => hloud hb hall.1]
    · rintro ⟨b, l, a, w, hb, hmax, rfl⟩
      refine ⟨b, l, a, w, hb, hmax, ?_⟩
      rw [continued_concat, if_neg fun hall => hloud hb hall.1]

/-- A key that is assigned has a value. -/
theorem exists_hasValue (h : IsAssigned ms s k) : ∃ v, HasValue ms s k v := by
  induction ms using List.reverseRecOn with
  | nil =>
    obtain ⟨before, line, after, value, h⟩ := h
    have := h.split
    simp at this
  | append_singleton ms m ih =>
    by_cases hlast : m.1 = .assignment ∧ OpenAt ms s ∧ ∃ value, Assigns m.2 k value
    · obtain ⟨kind, line⟩ := m
      obtain ⟨rfl, hopen, value, hassigns⟩ := hlast
      exact ⟨value, (hasValue_concat_assignment hopen hassigns).2 rfl⟩
    · obtain ⟨v, before, line, after, value, h, hmax, -⟩ :=
        ih ((isAssigned_concat.1 h).resolve_left hlast)
      exact ⟨_, (hasValue_concat_of_not hlast).2 ⟨before, line, after, value, h, hmax, rfl⟩⟩

/-! ### What the steps of the reader change -/

/-- The entries of a section; a section that is not there has none. -/
def entriesOf (c : SimulatorConf) (name : List Char) : List (List Char × List Char) :=
  ((c.section? name).map ConfSection.entries).getD []

theorem get?_eq_lookup (c : SimulatorConf) (s k : List Char) :
    c.get? s k = (c.entriesOf s).lookup k := by
  rw [get?, entriesOf]
  cases c.section? s <;> rfl

theorem find?_setSection (name s : List Char)
    (change : List (List Char × List Char) → List (List Char × List Char))
    (secs : List ConfSection) :
    (setSection name change secs).find? (·.name == s) =
      if s = name then
        some ⟨name, change (((secs.find? (·.name == name)).map ConfSection.entries).getD [])⟩
      else secs.find? (·.name == s) := by
  induction secs with
  | nil =>
    by_cases h : s = name
    · simp [setSection, h]
    · simp [setSection, h, Ne.symm h]
  | cons t secs ih =>
    rw [setSection]
    by_cases ht : t.name = name
    · rw [if_pos ht]
      by_cases h : s = name
      · simp [h, ← ht]
      · have hne : t.name ≠ s := fun hts => h (hts ▸ ht)
        simp [h, hne]
    · rw [if_neg ht]
      by_cases h : s = name
      · subst h
        have hne : (t.name == s) = false := beq_eq_false_iff_ne.2 ht
        simp only [List.find?_cons, hne, ih]
      · rw [if_neg h, List.find?_cons, List.find?_cons, ih, if_neg h]

theorem lookup_setEntry (key k : List Char) (change : Option (List Char) → List Char)
    (es : List (List Char × List Char)) :
    (setEntry key change es).lookup k =
      if k = key then some (change (es.lookup key)) else es.lookup k := by
  induction es with
  | nil =>
    by_cases h : k = key
    · simp [setEntry, h]
    · simp [setEntry, List.lookup_cons, beq_eq_false_iff_ne.2 h, h]
  | cons e es ih =>
    obtain ⟨l, w⟩ := e
    rw [setEntry]
    by_cases hl : l = key
    · subst hl
      by_cases h : k = l
      · simp [h]
      · simp [List.lookup_cons, beq_eq_false_iff_ne.2 h, h]
    · rw [if_neg hl, List.lookup_cons, List.lookup_cons, ih]
      by_cases h : k = key
      · subst h
        simp [beq_eq_false_iff_ne.2 (Ne.symm hl)]
      · simp [h, List.lookup_cons]

/-- A section that starts changes no value. -/
theorem get?_startSection (c : SimulatorConf) (name s k : List Char) :
    (c.startSection name).get? s k = c.get? s k := by
  rw [get?_eq_lookup, get?_eq_lookup, entriesOf, section?, startSection, find?_setSection]
  by_cases h : s = name
  · subst h
    simp [entriesOf, section?]
  · rw [if_neg h]
    rfl

theorem get?_setEntry (c : SimulatorConf) (name key s k : List Char)
    (change : Option (List Char) → List Char) :
    get? ⟨setSection name (setEntry key change) c.sections⟩ s k =
      if s = name ∧ k = key then some (change (c.get? name key)) else c.get? s k := by
  rw [get?_eq_lookup, get?_eq_lookup, get?_eq_lookup, entriesOf, section?, find?_setSection]
  by_cases h : s = name
  · subst h
    simp [lookup_setEntry, entriesOf, section?]
  · rw [if_neg h, if_neg (fun hs => h hs.1)]
    rfl

theorem get?_assign (c : SimulatorConf) (name key value s k : List Char) :
    (c.assign name key value).get? s k =
      if s = name ∧ k = key then some value else c.get? s k :=
  get?_setEntry c name key s k _

theorem get?_extend (c : SimulatorConf) (name key line s k : List Char) :
    (c.extend name key line).get? s k =
      if s = name ∧ k = key then some ((c.get? name key).getD [] ++ '\n' :: line)
      else c.get? s k :=
  get?_setEntry c name key s k _

/-- The names of the sections, in the order in which they start. -/
def names (c : SimulatorConf) : List (List Char) := c.sections.map ConfSection.name

theorem map_name_setSection (name : List Char)
    (change : List (List Char × List Char) → List (List Char × List Char))
    (secs : List ConfSection) :
    (setSection name change secs).map ConfSection.name =
      if name ∈ secs.map ConfSection.name then secs.map ConfSection.name
      else secs.map ConfSection.name ++ [name] := by
  induction secs with
  | nil => rfl
  | cons t secs ih =>
    rw [setSection]
    by_cases ht : t.name = name
    · rw [if_pos ht, if_pos (by simp [ht])]
      rfl
    · rw [if_neg ht, List.map_cons, ih]
      have hmem : name ∈ (t :: secs).map ConfSection.name ↔ name ∈ secs.map ConfSection.name := by
        simp [Ne.symm ht]
      simp only [hmem]
      split <;> rfl

theorem nodup_map_name_setSection {secs : List ConfSection} (name : List Char)
    (change : List (List Char × List Char) → List (List Char × List Char))
    (h : (secs.map ConfSection.name).Nodup) :
    ((setSection name change secs).map ConfSection.name).Nodup := by
  rw [map_name_setSection]
  split
  · exact h
  · rename_i hnew
    rw [List.nodup_append]
    refine ⟨h, List.nodup_singleton name, fun a ha b hb hab => hnew ?_⟩
    rw [List.mem_singleton] at hb
    rwa [← hb, ← hab]

/-! ### The progress of the reader -/

/-- The progress of the reader is that of the lines before. -/
structure Stands (ms : List MarkedLine) (p : Progress) : Prop where
  opened : ∀ s, p.open? = some s ↔ OpenAt ms s
  outside : p.open? = none ↔ ∀ m ∈ ms, m.1 ≠ .header
  entry : ∀ k, p.key? = some k → ∃ s, p.open? = some s ∧ InEntryOf ms s k
  noEntry : p.key? = none → ¬ InEntry ms
  nodup : p.conf.names.Nodup
  mem_names : ∀ s, s ∈ p.conf.names ↔ ∃ line, (.header, line) ∈ ms ∧ Heads line s
  values : ∀ s k v, p.conf.get? s k = some v ↔ HasValue ms s k v

/-- Nothing is known before the first line. -/
theorem stands_start : Stands [] ⟨empty, none, none⟩ where
  opened s := by simp [OpenAt]
  outside := by simp
  entry k h := by cases h
  noEntry _ := by simp [InEntry]
  nodup := List.nodup_nil
  mem_names s := by simp [names, empty]
  values s k v := by
    have hnone : ¬ HasValue [] s k v := by
      rintro ⟨before, line, after, value, h, -⟩
      have := h.split
      simp at this
    simp [hnone, get?, section?, empty]

theorem Stands.ignored (h : Stands ms p) (line : List Char) :
    Stands (ms ++ [(.ignored, line)]) p where
  opened s := by simp [h.opened, openAt_concat]
  outside := by simp [h.outside, List.forall_mem_append, -List.mem_append]
  entry k hk := by
    obtain ⟨s, hs, hentry⟩ := h.entry k hk
    exact ⟨s, hs, hentry.concat rfl⟩
  noEntry hk := by simpa [inEntry_concat] using h.noEntry hk
  nodup := h.nodup
  mem_names s := by simp [h.mem_names]
  values s k v := by rw [h.values, hasValue_concat_of_idle (by simp) (by simp)]

theorem Stands.header (h : Stands ms p) (hheads : Heads line name) :
    Stands (ms ++ [(.header, line)]) ⟨p.conf.startSection name, some name, none⟩ where
  opened s := by
    rw [openAt_concat]
    simp only [Option.some.injEq, true_and, ne_eq, not_true_eq_false, false_and, or_false]
    exact ⟨fun hs => hs ▸ hheads, fun hs => hheads.unique hs⟩
  outside := by simp
  entry k hk := by cases hk
  noEntry _ := by simp [inEntry_concat]
  nodup := nodup_map_name_setSection name id h.nodup
  mem_names s := by
    have hmem : s ∈ (p.conf.startSection name).names ↔ s ∈ p.conf.names ∨ s = name := by
      rw [names, startSection, map_name_setSection]
      split
      · rename_i hname
        exact ⟨.inl, fun hs => hs.elim id fun hs => hs ▸ hname⟩
      · simp [names]
    rw [hmem, h.mem_names]
    constructor
    · rintro (⟨l, hl, hs⟩ | rfl)
      · exact ⟨l, by simp [hl], hs⟩
      · exact ⟨line, by simp, hheads⟩
    · rintro ⟨l, hl, hs⟩
      rcases List.mem_append.1 hl with hl | hl
      · exact .inl ⟨l, hl, hs⟩
      · rw [List.mem_singleton, Prod.mk.injEq] at hl
        exact .inr ((hl.2 ▸ hs).unique hheads)
  values s k v := by
    rw [get?_startSection, h.values, hasValue_concat_of_idle (by simp) (by simp)]

/-- Changing an entry of an open section adds no section. -/
theorem Stands.names_setEntry (h : Stands ms p) (hopen : p.open? = some s) (key : List Char)
    (change : Option (List Char) → List Char) :
    names ⟨setSection s (setEntry key change) p.conf.sections⟩ = p.conf.names := by
  obtain ⟨before, line, after, rfl, hheads, -⟩ := (h.opened s).1 hopen
  have hmem : s ∈ p.conf.names := (h.mem_names s).2 ⟨line, by simp, hheads⟩
  rw [names, map_name_setSection]
  exact if_pos hmem

theorem Stands.continuation (h : Stands ms p) (hopen : p.open? = some s)
    (hentry : InEntryOf ms s k) :
    Stands (ms ++ [(.continuation, line)])
      { p with conf := p.conf.extend s k (trim line) } where
  opened s := by simp [h.opened, openAt_concat]
  outside := by simp [h.outside, List.forall_mem_append, -List.mem_append]
  entry k hk := by
    obtain ⟨s, hs, hentry⟩ := h.entry k hk
    exact ⟨s, hs, hentry.concat rfl⟩
  noEntry hk := absurd hentry.inEntry (h.noEntry hk)
  nodup := nodup_map_name_setSection s _ h.nodup
  mem_names t := by
    rw [show names (p.conf.extend s k (trim line)) = p.conf.names from h.names_setEntry hopen k _]
    simp [h.mem_names]
  values s' k' v' := by
    rw [get?_extend, hasValue_concat_continuation hentry]
    split
    · -- The key has a value, since it was assigned.
      obtain ⟨before, first, after, value, hassigned, hquiet⟩ := hentry
      have hvalue : HasValue ms s k (value ++ continued after) :=
        ⟨before, first, after, value, hassigned, fun b l a w hb => by
          by_contra hlt
          have heq := hassigned.eq_of_quiet hquiet hb (by omega)
          exact hlt (heq.1 ▸ le_refl _), rfl⟩
      have hget := (h.values s k _).2 hvalue
      simp only [← h.values, hget, Option.getD_some, Option.some.injEq, exists_eq_left']
      exact eq_comm
    · exact h.values s' k' v'

theorem Stands.assignment (h : Stands ms p) (hopen : p.open? = some s)
    (hassigns : Assigns line key value) :
    Stands (ms ++ [(.assignment, line)])
      { p with conf := p.conf.assign s key value, key? := some key } where
  opened s := by simp [h.opened, openAt_concat]
  outside := by simp [h.outside, List.forall_mem_append, -List.mem_append]
  entry k hk := by
    cases hk
    exact ⟨s, hopen, ms, line, [], value, assignedAt_concat.2
      (.inl ⟨rfl, rfl, rfl, (h.opened s).1 hopen, hassigns⟩), rfl⟩
  noEntry hk := by cases hk
  nodup := nodup_map_name_setSection s _ h.nodup
  mem_names t := by
    rw [show names (p.conf.assign s key value) = p.conf.names from h.names_setEntry hopen key _]
    simp [h.mem_names]
  values s' k' v' := by
    have hopenAt := (h.opened s).1 hopen
    rw [get?_assign]
    by_cases hplace : s' = s ∧ k' = key
    · obtain ⟨rfl, rfl⟩ := hplace
      rw [if_pos ⟨rfl, rfl⟩, hasValue_concat_assignment hopenAt hassigns, Option.some.injEq,
        eq_comm]
    · rw [if_neg hplace, h.values]
      have hnot : ¬ (LineKind.assignment = .assignment ∧ OpenAt ms s' ∧
          ∃ value, Assigns line k' value) := by
        rintro ⟨-, hs, w, hk⟩
        exact hplace ⟨hs.unique hopenAt, (hk.unique hassigns).1⟩
      rw [hasValue_concat_of_not (m := (.assignment, line)) hnot]
      simp only [continued_concat, reduceCtorEq, and_false, if_false]
      rfl

/-! ### One step, and all lines -/

/-- A line goes on with the entry before it, if it is indented and there is one. -/
theorem step_continued (hignored : ¬ IsIgnored line) (hindented : isIndented line = true)
    (hopen : p.open? = some s) (hkey : p.key? = some k) :
    p.step line = .ok { p with conf := p.conf.extend s k (trim line) } := by
  rw [ofTrimmed_ignored] at hignored
  cases hread : ConfLine.ofTrimmed (trim line) with
  | idle => exact absurd hread hignored
  | header name => simp [Progress.step, hread, hindented, hopen, hkey]
  | openHeader => simp [Progress.step, hread, hindented, hopen, hkey]
  | entry key value => simp [Progress.step, hread, hindented, hopen, hkey]
  | noSeparator => simp [Progress.step, hread, hindented, hopen, hkey]

/-- Otherwise it starts a section. -/
theorem step_header (hfresh : isIndented line = true → p.key? = none)
    (hread : ConfLine.ofTrimmed (trim line) = .header name) :
    p.step line = .ok ⟨p.conf.startSection name, some name, none⟩ := by
  cases hindented : isIndented line with
  | false => simp [Progress.step, hread, hindented]
  | true => simp [Progress.step, hread, hindented, hfresh hindented]

theorem step_openHeader (hfresh : isIndented line = true → p.key? = none)
    (hread : ConfLine.ofTrimmed (trim line) = .openHeader) :
    p.step line = .error (.openHeader (trim line)) := by
  cases hindented : isIndented line with
  | false => simp [Progress.step, hread, hindented]
  | true => simp [Progress.step, hread, hindented, hfresh hindented]

/-- Or it is an assignment, which needs a section, a separator and a key. -/
theorem step_outside (hopen : p.open? = none) (hbracket : (trim line).head? ≠ some '[')
    (hignored : ¬ IsIgnored line) :
    p.step line = .error .outsideSection := by
  rcases ofTrimmed_plain hignored hbracket with ⟨key, value, -, hread⟩ | ⟨-, hread⟩
  all_goals cases hindented : isIndented line <;> simp [Progress.step, hread, hindented, hopen]

theorem step_noSeparator (hfresh : isIndented line = true → p.key? = none)
    (hopen : p.open? = some s) (hread : ConfLine.ofTrimmed (trim line) = .noSeparator) :
    p.step line = .error (.noSeparator (trim line)) := by
  cases hindented : isIndented line with
  | false => simp [Progress.step, hread, hindented, hopen]
  | true => simp [Progress.step, hread, hindented, hopen, hfresh hindented]

theorem step_entry (hfresh : isIndented line = true → p.key? = none)
    (hopen : p.open? = some s) (hread : ConfLine.ofTrimmed (trim line) = .entry key value) :
    p.step line = if key = [] then .error .emptyKey
      else .ok { p with conf := p.conf.assign s key value, key? := some key } := by
  have hempty : key.isEmpty = true ↔ key = [] := List.isEmpty_iff
  cases hindented : isIndented line with
  | false => simp [Progress.step, hread, hindented, hopen]
  | true => simp [Progress.step, hread, hindented, hopen, hfresh hindented]

/-- **The step**: a line that is at fault in its place is refused, and any other one is read. -/
theorem step_of_stands (h : Stands ms p) (hkind : HasKind ms line kind) :
    (IsFaulty ms (kind, line) ∧ ∃ fault, p.step line = .error fault) ∨
      (¬ IsFaulty ms (kind, line) ∧
        ∃ p', p.step line = .ok p' ∧ Stands (ms ++ [(kind, line)]) p') := by
  have hfresh : kind ≠ .ignored → kind ≠ .continuation →
      isIndented line = true → p.key? = none := by
    intro hignored hcontinuation hindented
    cases hkey : p.key? with
    | none => rfl
    | some k =>
      obtain ⟨s, -, hentry⟩ := h.entry k hkey
      exact absurd (hkind.continuation_iff.2
        ⟨fun hi => hignored (hkind.ignored_iff.2 hi), hindented, hentry.inEntry⟩) hcontinuation
  cases kind with
  | ignored =>
    have hidle := ofTrimmed_ignored.1 (hkind.ignored_iff.1 rfl)
    exact .inr ⟨by simp [IsFaulty], p, by simp [Progress.step, hidle], h.ignored line⟩
  | continuation =>
    obtain ⟨hignored, hindented, hin⟩ := hkind.continuation_iff.1 rfl
    obtain ⟨k, hkey⟩ : ∃ k, p.key? = some k := by
      cases hkey : p.key? with
      | none => exact absurd hin (h.noEntry hkey)
      | some k => exact ⟨k, rfl⟩
    obtain ⟨s, hopen, hentry⟩ := h.entry k hkey
    exact .inr ⟨by simp [IsFaulty], _, step_continued hignored hindented hopen hkey,
      h.continuation hopen hentry⟩
  | header =>
    obtain ⟨-, -, hbracket⟩ := hkind.header_iff.1 rfl
    have hfresh := hfresh (by simp) (by simp)
    rcases ofTrimmed_bracket hbracket with ⟨name, hheads, hread⟩ | ⟨hlast, hread⟩
    · refine .inr ⟨?_, _, step_header hfresh hread, h.header hheads⟩
      obtain ⟨n, hn, -⟩ := hheads
      have hlast : (trim line).getLast? = some ']' := by rw [hn, List.getLast?_concat]
      simp [IsFaulty, hlast]
    · exact .inl ⟨.inl ⟨rfl, hlast⟩, _, step_openHeader hfresh hread⟩
  | assignment =>
    have hignored : ¬ IsIgnored line := fun hi => by simpa using hkind.ignored_iff.2 hi
    have hbracket : (trim line).head? ≠ some '[' := fun hb => by
      simpa using hkind.header_iff.2 ⟨by simp, by simp, hb⟩
    have hfresh := hfresh (by simp) (by simp)
    cases hopen : p.open? with
    | none =>
      exact .inl ⟨.inr ⟨rfl, .inl (h.outside.1 hopen)⟩, _, step_outside hopen hbracket hignored⟩
    | some s =>
      have hinside : ¬ ∀ m ∈ ms, m.1 ≠ .header := fun hout => by
        rw [h.outside.2 hout] at hopen
        cases hopen
      rcases ofTrimmed_plain hignored hbracket with ⟨key, value, hassigns, hread⟩ | ⟨hnone, hread⟩
      · have hstep := step_entry hfresh hopen hread
        by_cases hkey : key = []
        · subst hkey
          exact .inl ⟨.inr ⟨rfl, .inr (.inr ⟨value, hassigns⟩)⟩, _, by rw [hstep, if_pos rfl]⟩
        · rw [if_neg hkey] at hstep
          refine .inr ⟨?_, _, hstep, h.assignment hopen hassigns⟩
          rintro (⟨hheader, -⟩ | ⟨-, hout | hnone | ⟨w, hw⟩⟩)
          · cases hheader
          · exact hinside hout
          · obtain ⟨k, c, v, hline, hc, -⟩ := hassigns
            have := hnone c (by rw [hline]; simp)
            rcases hc with rfl | rfl
            · exact this.1 rfl
            · exact this.2 rfl
          · exact hkey (hassigns.unique hw).1
      · exact .inl ⟨.inr ⟨rfl, .inr (.inl hnone)⟩, _, step_noSeparator hfresh hopen hread⟩

/-- **The run**: either no line after those that were read is at fault, or the first one that is
gets reported. -/
theorem run_of_stands (h : Stands before p) (marked : Marked (before ++ after)) :
    (∃ p', p.run (before.length + 1) (after.map Prod.snd) = .ok p' ∧ Stands (before ++ after) p' ∧
        ∀ n, before.length < n → ¬ FaultyAt (before ++ after) n) ∨
      ∃ n fault, p.run (before.length + 1) (after.map Prod.snd) = .error ⟨n, fault⟩ ∧
        FaultyAt (before ++ after) n ∧
        ∀ k, before.length < k → FaultyAt (before ++ after) k → n ≤ k := by
  induction after generalizing before p with
  | nil =>
    refine .inl ⟨p, rfl, by rwa [List.append_nil], ?_⟩
    rintro n hn ⟨b, m, a, hsplit, rfl, -⟩
    have hlength := congrArg List.length hsplit
    simp only [List.length_append, List.length_nil, List.length_cons] at hlength
    omega
  | cons m after ih =>
    obtain ⟨kind, line⟩ := m
    have hkind := marked before kind line after rfl
    -- The line after those that were read has one place.
    have hhere : FaultyAt (before ++ (kind, line) :: after) (before.length + 1) ↔
        IsFaulty before (kind, line) := by
      constructor
      · rintro ⟨b, m, a, hsplit, hlength, hfaulty⟩
        obtain ⟨rfl, hrest⟩ := List.append_inj hsplit (by omega)
        rw [(List.cons.inj hrest).1]
        exact hfaulty
      · exact fun hfaulty => ⟨before, _, after, rfl, rfl, hfaulty⟩
    rw [List.map_cons]
    unfold Progress.run
    rcases step_of_stands h hkind with ⟨hfaulty, fault, hstep⟩ | ⟨hsound, p', hstep, hstands⟩
    · rw [hstep]
      exact .inr ⟨before.length + 1, fault, rfl, hhere.2 hfaulty, fun k hk _ => hk⟩
    · rw [hstep]
      have happend : before ++ (kind, line) :: after = before ++ [(kind, line)] ++ after := by simp
      have hlength : (before ++ [(kind, line)]).length = before.length + 1 := by simp
      have hnext : ∀ k, before.length < k → FaultyAt (before ++ (kind, line) :: after) k →
          before.length + 1 < k := by
        intro k hk hfault
        rcases Nat.lt_or_eq_of_le (show before.length + 1 ≤ k from hk) with hlt | rfl
        · exact hlt
        · exact absurd (hhere.1 hfault) hsound
      have hrest := ih hstands (happend ▸ marked)
      rw [← happend, hlength] at hrest
      rcases hrest with ⟨q, hq, hqstands, hclean⟩ | ⟨n, fault, hq, hfault, hfirst⟩
      · exact .inl ⟨q, hq, hqstands, fun n hn hfault => hclean n (hnext n hn hfault) hfault⟩
      · exact .inr ⟨n, fault, hq, hfault, fun k hk hkfault => hfirst k (hnext k hk hkfault) hkfault⟩

/-! ### Records -/

/-- The names of the sections are sorted. -/
theorem pairwise_sectionNames (h : c.names.Nodup) : c.sectionNames.Pairwise (· < ·) := by
  have trans : ∀ a b d : List Char, (!decide (b < a)) = true → (!decide (d < b)) = true →
      (!decide (d < a)) = true := by
    intro a b d hab hbd
    simp only [Bool.not_eq_true', decide_eq_false_iff_not, not_lt] at hab hbd ⊢
    exact hab.trans hbd
  have total : ∀ a b : List Char, (!decide (b < a) || !decide (a < b)) = true := by
    intro a b
    simp only [Bool.or_eq_true, Bool.not_eq_true', decide_eq_false_iff_not, not_lt]
    exact le_total a b
  have hsorted := List.pairwise_mergeSort trans total c.names
  have hnodup : c.sectionNames.Nodup := (List.mergeSort_perm c.names _).nodup_iff.2 h
  refine (hsorted.and hnodup).imp fun {a b} hab => ?_
  obtain ⟨hle, hne⟩ := hab
  simp only [Bool.not_eq_true', decide_eq_false_iff_not, not_lt] at hle
  exact lt_of_le_of_ne hle hne

/-- What was read says what the lines mean. -/
theorem Stands.means (h : Stands ms p) : p.conf.Means ms := by
  have hnone : ∀ s k, p.conf.get? s k = none ↔ ¬ IsAssigned ms s k := by
    intro s k
    constructor
    · intro hget hassigned
      obtain ⟨v, hv⟩ := exists_hasValue hassigned
      rw [(h.values s k v).2 hv] at hget
      cases hget
    · intro hnot
      cases hget : p.conf.get? s k with
      | none => rfl
      | some v =>
        obtain ⟨before, line, after, value, hassigned, -⟩ := (h.values s k v).1 hget
        exact absurd ⟨before, line, after, value, hassigned⟩ hnot
  refine ⟨pairwise_sectionNames h.nodup, fun s => ?_, h.values, hnone, fun n => ?_⟩
  · rw [← h.mem_names]
    exact (List.mergeSort_perm p.conf.names _).mem_iff
  · have hsome : ∀ s, (p.conf.get? s n).isSome = true ↔ IsAssigned ms s n := by
      intro s
      rw [Option.isSome_iff_ne_none, ne_eq, hnone, not_not]
    simp only [hasElement, elementSections, List.any_cons, List.any_nil, Bool.or_false,
      Bool.or_eq_true, hsome]

/-- **What the reader of records accepts, and what it makes of it.**  The lines of a text have their
kinds in one way.  The text is refused exactly if some line is at fault in its place, and the first
such line is reported; otherwise the record says what the lines mean. -/
theorem parse_means (text : List Char) :
    ∃ ms, (∀ ms', Marked ms' ∧ ms'.map Prod.snd = lines text ↔ ms' = ms) ∧
      ((∃ e, parse text = .error e) ↔ ∃ n, FaultyAt ms n) ∧
      (∀ e, parse text = .error e → FaultyAt ms e.line ∧ ∀ n, FaultyAt ms n → e.line ≤ n) ∧
      ∀ c, parse text = .ok c → c.Means ms := by
  obtain ⟨ms, hmarked, hlines⟩ := exists_marked (lines text)
  refine ⟨ms, fun ms' => ⟨fun h => h.1.unique hmarked (h.2.trans hlines.symm), ?_⟩, ?_⟩
  · rintro rfl
    exact ⟨hmarked, hlines⟩
  have hparse : parse text =
      ((Progress.mk empty none none).run 1 (ms.map Prod.snd)).map Progress.conf := by
    rw [parse, hlines]
  have hpos : ∀ n, FaultyAt ms n → 0 < n := by
    rintro n ⟨before, m, after, -, rfl, -⟩
    omega
  have hall : Marked ([] ++ ms) := hmarked
  rcases run_of_stands stands_start hall with
    ⟨p, hrun, hstands, hclean⟩ | ⟨n, fault, hrun, hfault, hfirst⟩
  · have hok : parse text = .ok p.conf := hparse.trans (congrArg (Except.map Progress.conf) hrun)
    rw [hok]
    refine ⟨⟨by simp, fun ⟨n, hn⟩ => absurd hn (hclean n (hpos n hn))⟩, by simp, fun c hc => ?_⟩
    cases hc
    exact hstands.means
  · have herror : parse text = .error ⟨n, fault⟩ :=
      hparse.trans (congrArg (Except.map Progress.conf) hrun)
    rw [herror]
    refine ⟨⟨fun _ => ⟨n, hfault⟩, fun _ => ⟨_, rfl⟩⟩, fun e he => ?_, by simp⟩
    cases he
    exact ⟨hfault, fun k hk => hfirst k (hpos k hk) hk⟩

end SuiteRunner.SimulatorConf
