import Mathlib.Data.List.Sort
import SuiteRunner.Proofs.ConfMeaning
import SuiteRunner.Proofs.FileChanges
import SuiteRunner.Proofs.TextLines

/-!
# Rearranged records of an installation

A block of a record is a header and the lines up to the next one.  It changes the entries of its own
section only, in a way that does not depend on what was read before it, and leaves the section open
for the lines that come after it.  So blocks of different sections can be exchanged.

* `Reads`, the lines that are read, and `reads_append`;
* `change`, a record with the entries of one section changed, and `Agree`;
* `ConfBlock` and **`reads_block`** — what a block does, by `step_change` for each of its lines;
* **`reads_blocks_of_agree`** — blocks are read alike after records that agree;
* `Rearranged` and **`Rearranged.reads`** — blocks that are exchanged or joined, and more lines that
  are ignored;
* **`parse_rearranged`** — rearranged texts say the same, and errors stay when lines are appended.
-/

namespace SuiteRunner.SimulatorConf

open Text

variable {p p' q r : Progress} {c d : SimulatorConf} {s t name line text text' : List Char}
  {ls ls' more : List (List Char)} {n : Nat} {e : ConfError}

/-! ### Lines that are read -/

/-- The lines are read one after another. -/
inductive Reads : Progress → List (List Char) → Progress → Prop
  | nil (p : Progress) : Reads p [] p
  | cons {p q r : Progress} {line : List Char} {ls : List (List Char)} :
    p.step line = .ok q → Reads q ls r → Reads p (line :: ls) r

theorem reads_cons : Reads p (line :: ls) r ↔ ∃ q, p.step line = .ok q ∧ Reads q ls r := by
  constructor
  · rintro (_ | ⟨hstep, hrest⟩)
    exact ⟨_, hstep, hrest⟩
  · rintro ⟨q, hstep, hrest⟩
    exact .cons hstep hrest

theorem reads_append : Reads p (ls ++ more) r ↔ ∃ q, Reads p ls q ∧ Reads q more r := by
  induction ls generalizing p with
  | nil =>
    constructor
    · exact fun h => ⟨p, .nil p, h⟩
    · rintro ⟨q, ⟨⟩, h⟩
      exact h
  | cons line ls ih =>
    simp only [List.cons_append, reads_cons, ih]
    constructor
    · rintro ⟨m, hstep, q, hls, hmore⟩
      exact ⟨q, ⟨m, hstep, hls⟩, hmore⟩
    · rintro ⟨q, ⟨m, hstep, hls⟩, hmore⟩
      exact ⟨m, hstep, q, hls, hmore⟩

/-- Lines are read in one way. -/
theorem Reads.unique (h : Reads p ls q) (h' : Reads p ls r) : q = r := by
  induction h with
  | nil p =>
    cases h'
    rfl
  | cons hstep _ ih =>
    obtain ⟨m, hstep', hrest⟩ := reads_cons.1 h'
    rw [hstep] at hstep'
    cases hstep'
    exact ih hrest

theorem run_eq_ok : p.run n ls = .ok q ↔ Reads p ls q := by
  induction ls generalizing p n with
  | nil =>
    rw [Progress.run, Except.ok.injEq]
    constructor
    · rintro rfl
      exact .nil p
    · rintro ⟨⟩
      rfl
  | cons line ls ih =>
    rw [Progress.run, reads_cons]
    cases hstep : p.step line with
    | error fault => simp
    | ok m =>
      simp only [ih, Except.ok.injEq, exists_eq_left']

/-- An error is found before the lines after it are read. -/
theorem run_append_of_error (h : p.run n ls = .error e) (more : List (List Char)) :
    p.run n (ls ++ more) = .error e := by
  induction ls generalizing p n with
  | nil => cases h
  | cons line ls ih =>
    rw [Progress.run] at h
    rw [List.cons_append, Progress.run]
    split at h
    · exact h
    · exact ih h

/-! ### White space at the end of a line -/

/-- White space at the end of a line does not count. -/
theorem step_trimEnd (p : Progress) (line : List Char) : p.step (trimEnd line) = p.step line := by
  rw [Progress.step, Progress.step, trim_trimEnd]
  by_cases hblank : trimEnd line = []
  · have hnothing : trim line = [] := by
      rw [← trim_trimEnd, hblank]
      rfl
    simp [hnothing, ConfLine.ofTrimmed]
  · have hindented : isIndented (trimEnd line) = isIndented line := by
      obtain ⟨rest, hrest⟩ := trimEnd_prefix_self line
      obtain ⟨first, others, hcons⟩ := List.exists_cons_of_ne_nil hblank
      rw [hcons] at hrest ⊢
      rw [← hrest]
      rfl
    rw [hindented]

theorem run_map_trimEnd (p : Progress) (n : Nat) (ls : List (List Char)) :
    p.run n (ls.map trimEnd) = p.run n ls := by
  induction ls generalizing p n with
  | nil => rfl
  | cons line ls ih =>
    rw [List.map_cons, Progress.run, Progress.run, step_trimEnd]
    split
    · rfl
    · exact ih _ _

/-- The text has these lines, up to white space at their ends. -/
def Shows (text : List Char) (ls : List (List Char)) : Prop :=
  (lines text).map trimEnd = ls.map trimEnd

theorem parse_of_shows (h : Shows text ls) :
    parse text = ((Progress.mk empty none none).run 1 ls).map Progress.conf := by
  rw [parse, ← run_map_trimEnd _ _ (lines text), h, run_map_trimEnd]

/-! ### Sections that are changed -/

/-- The record with the entries of a section changed; a section that is not there is added. -/
def change (c : SimulatorConf) (name : List Char)
    (f : List (List Char × List Char) → List (List Char × List Char)) : SimulatorConf :=
  ⟨setSection name f c.sections⟩

theorem section?_change (c : SimulatorConf) (name s : List Char)
    (f : List (List Char × List Char) → List (List Char × List Char)) :
    (c.change name f).section? s =
      if s = name then some ⟨name, f (c.entriesOf name)⟩ else c.section? s :=
  find?_setSection name s f c.sections

theorem change_change (c : SimulatorConf) (name : List Char)
    (f g : List (List Char × List Char) → List (List Char × List Char)) :
    (c.change name f).change name g = c.change name (g ∘ f) := by
  have hsections : ∀ secs, setSection name g (setSection name f secs) =
      setSection name (g ∘ f) secs := by
    intro secs
    induction secs with
    | nil => simp [setSection]
    | cons sec secs ih =>
      by_cases hname : sec.name = name
      · simp [setSection, hname]
      · simp [setSection, hname, ih]
  exact congrArg mk (hsections c.sections)

/-- A section that is there is not changed by being started again. -/
theorem change_id_change (c : SimulatorConf) (name : List Char)
    (f : List (List Char × List Char) → List (List Char × List Char)) :
    (c.change name f).change name id = c.change name f := change_change c name f id

/-- The records have the same sections with the same entries. -/
def Agree (c d : SimulatorConf) : Prop := ∀ name, c.section? name = d.section? name

theorem Agree.change (h : Agree c d) (name : List Char)
    (f : List (List Char × List Char) → List (List Char × List Char)) :
    Agree (c.change name f) (d.change name f) := by
  intro s
  rw [section?_change, section?_change, h s, entriesOf, entriesOf, h name]

/-- **Changes of different sections can be exchanged.** -/
theorem agree_change_comm (c : SimulatorConf) (hne : s ≠ t)
    (f g : List (List Char × List Char) → List (List Char × List Char)) :
    Agree ((c.change s f).change t g) ((c.change t g).change s f) := by
  intro name
  simp only [section?_change, entriesOf]
  by_cases hs : name = s
  · subst hs
    simp [hne]
  · by_cases ht : name = t
    · subst ht
      simp [hs]
    · simp [hs, ht]

theorem Agree.get?_eq (h : Agree c d) (s k : List Char) : c.get? s k = d.get? s k := by
  rw [get?, get?, h s]

/-! ### Blocks -/

/-- A header that is not indented, and lines after it none of which starts with a bracket. -/
structure ConfBlock where
  header : List Char
  body : List (List Char)
  bracket : (trim header).head? = some '['
  unindented : isIndented header = false
  plain : ∀ line ∈ body, (trim line).head? ≠ some '['

/-- The lines of a block. -/
def ConfBlock.lines (b : ConfBlock) : List (List Char) := b.header :: b.body

/-- The lines of blocks. -/
def blockLines (bs : List ConfBlock) : List (List Char) := bs.flatMap ConfBlock.lines

/-- **The step**: a line inside a block changes the entries of the section, in a way that depends on
the line and on the key before it only. -/
theorem step_change {k : Option (List Char)}
    {f : List (List Char × List Char) → List (List Char × List Char)}
    (hplain : (trim line).head? ≠ some '[')
    (h : (Progress.mk (c.change s f) (some s) k).step line = .ok q) :
    ∃ g k', ∀ c : SimulatorConf, (Progress.mk (c.change s f) (some s) k).step line =
      .ok ⟨c.change s g, some s, k'⟩ := by
  by_cases hignored : IsIgnored line
  · exact ⟨f, k, fun c => by simp [Progress.step, ofTrimmed_ignored.1 hignored]⟩
  · by_cases hgoesOn : isIndented line = true ∧ k.isSome
    · obtain ⟨hindented, hkey⟩ := hgoesOn
      obtain ⟨key, rfl⟩ := Option.isSome_iff_exists.1 hkey
      refine ⟨setEntry key (fun v => v.getD [] ++ '\n' :: trim line) ∘ f, some key, fun c => ?_⟩
      rw [step_continued hignored hindented rfl rfl]
      exact congrArg (fun conf => Except.ok (Progress.mk conf _ _)) (change_change c s f _)
    · have hfresh : isIndented line = true → k = none := by
        intro hindented
        rw [not_and, Option.not_isSome_iff_eq_none] at hgoesOn
        exact hgoesOn hindented
      rcases ofTrimmed_plain hignored hplain with ⟨key, value, -, hread⟩ | ⟨-, hread⟩
      · rw [step_entry hfresh rfl hread] at h
        split at h
        · cases h
        · rename_i hkey
          refine ⟨setEntry key (fun _ => value) ∘ f, some key, fun c => ?_⟩
          rw [step_entry hfresh rfl hread, if_neg hkey]
          exact congrArg (fun conf => Except.ok (Progress.mk conf _ _)) (change_change c s f _)
      · rw [step_noSeparator hfresh rfl hread] at h
        cases h

/-- The lines inside a block change the entries of the section. -/
theorem reads_body {k : Option (List Char)} {body : List (List Char)}
    {f : List (List Char × List Char) → List (List Char × List Char)}
    (hplain : ∀ line ∈ body, (trim line).head? ≠ some '[')
    (h : Reads ⟨c.change s f, some s, k⟩ body q) :
    ∃ g k', ∀ c : SimulatorConf,
      Reads ⟨c.change s f, some s, k⟩ body ⟨c.change s g, some s, k'⟩ := by
  induction body generalizing f k with
  | nil => exact ⟨f, k, fun c => .nil _⟩
  | cons line body ih =>
    obtain ⟨hline, hbody⟩ := List.forall_mem_cons.1 hplain
    obtain ⟨m, hstep, hrest⟩ := reads_cons.1 h
    obtain ⟨g, k', hg⟩ := step_change hline hstep
    rw [hg c] at hstep
    cases hstep
    obtain ⟨g', k'', hg'⟩ := ih hbody hrest
    exact ⟨g', k'', fun c => .cons (hg c) (hg' c)⟩

/-- The header of a block that is read names a section, and opens it. -/
theorem step_block_header (b : ConfBlock) (h : p.step b.header = .ok q) :
    ∃ s, Heads b.header s ∧
      ∀ p : Progress, p.step b.header = .ok ⟨p.conf.change s id, some s, none⟩ := by
  have hfresh : ∀ p : Progress, isIndented b.header = true → p.key? = none := by
    simp [b.unindented]
  rcases ofTrimmed_bracket b.bracket with ⟨s, hheads, hread⟩ | ⟨-, hread⟩
  · exact ⟨s, hheads, fun p => step_header (hfresh p) hread⟩
  · rw [step_openHeader (hfresh p) hread] at h
    cases h

/-- **A block changes the entries of its section**, whatever was read before it. -/
theorem reads_block (b : ConfBlock) (h : Reads p b.lines q) :
    ∃ s, Heads b.header s ∧ ∃ f k, ∀ p, Reads p b.lines ⟨p.conf.change s f, some s, k⟩ := by
  obtain ⟨m, hstep, hbody⟩ := reads_cons.1 h
  obtain ⟨s, hheads, hopen⟩ := step_block_header b hstep
  rw [hopen p] at hstep
  cases hstep
  obtain ⟨f, k, hread⟩ := reads_body b.plain hbody
  exact ⟨s, hheads, f, k, fun p => .cons (hopen p) (hread p.conf)⟩

/-- **Blocks are read alike after records that agree.** -/
theorem reads_blocks_of_agree {bs : List ConfBlock} (p' : Progress) (agree : Agree p.conf p'.conf)
    (h : Reads p (blockLines bs) q) :
    ∃ q', Reads p' (blockLines bs) q' ∧ Agree q.conf q'.conf := by
  induction bs generalizing p p' with
  | nil =>
    cases h
    exact ⟨p', .nil p', agree⟩
  | cons b bs ih =>
    obtain ⟨m, hblock, hrest⟩ := reads_append.1 h
    obtain ⟨s, -, f, k, hread⟩ := reads_block b hblock
    obtain rfl := hblock.unique (hread p)
    obtain ⟨q', hq', hagree⟩ := ih ⟨p'.conf.change s f, some s, k⟩ (agree.change s f) hrest
    exact ⟨q', reads_append.2 ⟨_, hread p', hq'⟩, hagree⟩

/-! ### Rearranged lines -/

/-- The first line that is not ignored, if there is one, is not indented. -/
def StartsFresh (ls : List (List Char)) : Prop :=
  ∀ idle line rest, ls = idle ++ line :: rest → (∀ l ∈ idle, IsIgnored l) → ¬ IsIgnored line →
    isIndented line = false

/-- The lines are rearranged: two blocks of different sections that stand one after the other are
exchanged, a block is joined to the one before it, of the same section, or a line is inserted that
is ignored.  Other blocks come after the two, and any lines before them. -/
inductive Rearranged : List (List Char) → List (List Char) → Prop
  | exchanged {s t : List Char} (front : List (List Char)) (a b : ConfBlock)
    (others : List ConfBlock) : Heads a.header s → Heads b.header t → s ≠ t →
    Rearranged (front ++ a.lines ++ b.lines ++ blockLines others)
      (front ++ b.lines ++ a.lines ++ blockLines others)
  | joined {s : List Char} (front : List (List Char)) (a b : ConfBlock) (others : List ConfBlock) :
    Heads a.header s → Heads b.header s → StartsFresh b.body →
    Rearranged (front ++ a.lines ++ b.lines ++ blockLines others)
      (front ++ a.lines ++ b.body ++ blockLines others)
  | inserted {line : List Char} (before after : List (List Char)) : IsIgnored line →
    Rearranged (before ++ after) (before ++ line :: after)

/-- Lines that start afresh do not depend on the key before them. -/
theorem reads_of_startsFresh {k : Option (List Char)} {body : List (List Char)}
    (k' : Option (List Char)) (fresh : StartsFresh body)
    (hplain : ∀ line ∈ body, (trim line).head? ≠ some '[') (h : Reads ⟨c, some s, k⟩ body q) :
    ∃ q', Reads ⟨c, some s, k'⟩ body q' ∧ q'.conf = q.conf := by
  induction body with
  | nil =>
    cases h
    exact ⟨_, .nil _, rfl⟩
  | cons line body ih =>
    obtain ⟨hline, hbody⟩ := List.forall_mem_cons.1 hplain
    obtain ⟨m, hstep, hrest⟩ := reads_cons.1 h
    by_cases hignored : IsIgnored line
    · -- The lines after one that is ignored start afresh, too.
      have hidle := ofTrimmed_ignored.1 hignored
      have hsame : ∀ k, (Progress.mk c (some s) k).step line = .ok ⟨c, some s, k⟩ := by
        simp [Progress.step, hidle]
      rw [hsame] at hstep
      cases hstep
      have hfresh : StartsFresh body := by
        intro idle first rest hsplit hall
        exact fresh (line :: idle) first rest (by rw [hsplit, List.cons_append])
          (List.forall_mem_cons.2 ⟨hignored, hall⟩)
      obtain ⟨q', hq', hconf⟩ := ih hfresh hbody hrest
      exact ⟨q', .cons (hsame k') hq', hconf⟩
    · have hunindented : isIndented line = false :=
        fresh [] line body rfl (by simp) hignored
      have hnone : ∀ k : Option (List Char), isIndented line = true → k = none := by
        simp [hunindented]
      have hstep' : (Progress.mk c (some s) k').step line = .ok m := by
        rcases ofTrimmed_plain hignored hline with ⟨key, value, -, hread⟩ | ⟨-, hread⟩
        · rw [step_entry (hnone k) rfl hread] at hstep
          rw [step_entry (hnone k') rfl hread]
          exact hstep
        · rw [step_noSeparator (hnone k) rfl hread] at hstep
          cases hstep
      exact ⟨q, .cons hstep' hrest, rfl⟩

/-- **Rearranged lines are read, and say the same.** -/
theorem Rearranged.reads (h : Rearranged ls ls') (hread : Reads p ls q) :
    ∃ q', Reads p ls' q' ∧ Agree q.conf q'.conf := by
  cases h with
  | @exchanged s t front a b others hs ht hne =>
    simp only [reads_append] at hread
    obtain ⟨p₃, ⟨p₂, ⟨p₁, hfront, ha⟩, hb⟩, hothers⟩ := hread
    obtain ⟨s', hs', f, k, hreadA⟩ := reads_block a ha
    obtain ⟨t', ht', g, l, hreadB⟩ := reads_block b hb
    obtain rfl := hs.unique hs'
    obtain rfl := ht.unique ht'
    obtain rfl := ha.unique (hreadA p₁)
    obtain rfl := hb.unique (hreadB _)
    obtain ⟨q', hq', hagree⟩ := reads_blocks_of_agree
      ⟨(p₁.conf.change t g).change s f, some s, k⟩
      (agree_change_comm p₁.conf hne f g) hothers
    refine ⟨q', ?_, hagree⟩
    simp only [reads_append]
    exact ⟨_, ⟨_, ⟨p₁, hfront, hreadB p₁⟩, hreadA _⟩, hq'⟩
  | @joined s front a b others hs ht hfresh =>
    simp only [reads_append] at hread
    obtain ⟨p₃, ⟨p₂, ⟨p₁, hfront, ha⟩, hb⟩, hothers⟩ := hread
    obtain ⟨s', hs', f, k, hreadA⟩ := reads_block a ha
    obtain rfl := hs.unique hs'
    obtain rfl := ha.unique (hreadA p₁)
    -- The header opens the section that is open, and starts no key.
    obtain ⟨m, hstep, hbody⟩ := reads_cons.1 hb
    obtain ⟨t', ht', hopen⟩ := step_block_header b hstep
    obtain rfl := ht.unique ht'
    rw [hopen] at hstep
    cases hstep
    rw [change_id_change] at hbody
    obtain ⟨m, hm, hconf⟩ := reads_of_startsFresh k hfresh b.plain hbody
    obtain ⟨q', hq', hagree⟩ := reads_blocks_of_agree m (fun name => by rw [hconf])
      hothers
    refine ⟨q', ?_, hagree⟩
    simp only [reads_append]
    exact ⟨m, ⟨_, ⟨p₁, hfront, ha⟩, hm⟩, hq'⟩
  | @inserted line before after hignored =>
    obtain ⟨m, hbefore, hafter⟩ := reads_append.1 hread
    have hstep : m.step line = .ok m := by
      simp [Progress.step, ofTrimmed_ignored.1 hignored]
    exact ⟨q, reads_append.2 ⟨m, hbefore, .cons hstep hafter⟩, fun _ => rfl⟩

/-! ### Texts -/

theorem parse_eq_ok (h : Shows text ls) : parse text = .ok c ↔
    ∃ q, Reads ⟨empty, none, none⟩ ls q ∧ q.conf = c := by
  rw [parse_of_shows h]
  simp only [map_eq_ok, run_eq_ok]

theorem mem_sectionNames : s ∈ c.sectionNames ↔ (c.section? s).isSome := by
  rw [sectionNames, List.mem_mergeSort, section?, List.find?_isSome, List.mem_map]
  simp only [beq_iff_eq]

/-- The sections of a record that was read are sorted, and none is there twice. -/
theorem pairwise_sectionNames_of_parse (h : parse text = .ok c) :
    c.sectionNames.Pairwise (· < ·) := by
  obtain ⟨ms, hmarked, hlines⟩ := exists_marked (lines text)
  obtain ⟨q, hq, rfl⟩ := (parse_eq_ok rfl).1 h
  rw [← hlines, ← run_eq_ok (n := 1)] at hq
  have hall : Marked ([] ++ ms) := hmarked
  rcases run_of_stands stands_start hall with ⟨q', hrun, hstands, -⟩ | ⟨n, fault, hrun, -⟩
  · rw [List.length_nil, hq] at hrun
    cases hrun
    exact hstands.means.sorted
  · rw [List.length_nil, hq] at hrun
    cases hrun

theorem Agree.sectionNames_eq (h : Agree c d) (hc : c.sectionNames.Pairwise (· < ·))
    (hd : d.sectionNames.Pairwise (· < ·)) : c.sectionNames = d.sectionNames := by
  refine hc.eq_of_mem_iff hd fun s => ?_
  rw [mem_sectionNames, mem_sectionNames, h s]

/-- An error is found before the lines after it are read, whatever these are. -/
theorem parse_of_error (h : parse text = .error e)
    (more : (lines text).map trimEnd <+: (lines text').map trimEnd) : parse text' = .error e := by
  obtain ⟨rest, hrest⟩ := more
  rw [parse, ← run_map_trimEnd] at h ⊢
  rw [← hrest]
  cases hrun : (Progress.mk empty none none).run 1 ((lines text).map trimEnd) with
  | ok q =>
    rw [hrun] at h
    cases h
  | error e' =>
    rw [hrun] at h
    rw [run_append_of_error hrun rest]
    exact h

/-- **Rearranged texts say the same.**  If a record is read from a text, then one with the same
sections and values is read from every text with the rearranged lines.  If an error is found, then
the same error is found, with the same number of its line, in every text that goes on with more
lines. -/
theorem parse_rearranged :
    (∀ {ls ls' : List (List Char)} {text text' : List Char} {c : SimulatorConf},
      Rearranged ls ls' → Shows text ls → Shows text' ls' → parse text = .ok c →
      ∃ c', parse text' = .ok c' ∧ c'.sectionNames = c.sectionNames ∧
        ∀ s k, c'.get? s k = c.get? s k) ∧
    ∀ {text : List Char} {e : ConfError}, parse text = .error e →
      (∀ more, parse (text ++ '\n' :: more) = .error e) ∧
      (∀ more, text.getLast? = some '\n' → parse (text ++ more) = .error e) ∧
      ∀ text', (lines text).map trimEnd <+: (lines text').map trimEnd →
        parse text' = .error e := by
  constructor
  · intro ls ls' text text' c rearranged hls hls' hparse
    obtain ⟨q, hread, rfl⟩ := (parse_eq_ok hls).1 hparse
    obtain ⟨q', hread', hagree⟩ := rearranged.reads hread
    have hparse' : parse text' = .ok q'.conf := (parse_eq_ok hls').2 ⟨q', hread', rfl⟩
    refine ⟨q'.conf, hparse', ?_, fun s k => (hagree.get?_eq s k).symm⟩
    exact (hagree.sectionNames_eq (pairwise_sectionNames_of_parse hparse)
      (pairwise_sectionNames_of_parse hparse')).symm
  · intro text e herror
    refine ⟨fun more => ?_, fun more hended => ?_, fun text' => parse_of_error herror⟩
    · exact parse_of_error herror (map_trimEnd_lines_prefix_append text more)
    · refine parse_of_error herror ?_
      rw [lines_append_of_ended hended, List.map_append]
      exact List.prefix_append _ _

/-- A section with a value of two lines. -/
def twoLines : ConfBlock where
  header := "[a]".toList
  body := ["k = 1".toList, "  2".toList]
  bracket := by decide
  unindented := by decide
  plain := by decide

/-- A section whose first assignment is indented. -/
def indentedFirst : ConfBlock where
  header := "[ b ]".toList
  body := ["  k = 3".toList]
  bracket := by decide
  unindented := by decide
  plain := by decide

/-- Two sections are exchanged, and a line at fault stays the first one. -/
theorem exchangedSections_say_same :
    Rearranged (["; c".toList] ++ twoLines.lines ++ indentedFirst.lines ++ blockLines [])
      (["; c".toList] ++ indentedFirst.lines ++ twoLines.lines ++ blockLines []) ∧
    parse "; c\n[a]\nk = 1\n  2\n[ b ]\n  k = 3".toList = .ok
      ⟨[⟨['a'], [(['k'], "1\n2".toList)]⟩, ⟨['b'], [(['k'], ['3'])]⟩]⟩ ∧
    (∃ c, parse "; c\n[ b ]\n  k = 3\r\n[a]\nk = 1\n  2\n".toList = .ok c ∧
      c.sectionNames = [['a'], ['b']] ∧ c.get? ['a'] ['k'] = some "1\n2".toList ∧
      c.get? ['b'] ['k'] = some ['3']) ∧
    parse "[a]\nk".toList = .error ⟨2, .noSeparator ['k']⟩ ∧
    parse "[a]\nk\nk = 1\n[".toList = .error ⟨2, .noSeparator ['k']⟩ := by
  have hrearranged : Rearranged
      (["; c".toList] ++ twoLines.lines ++ indentedFirst.lines ++ blockLines [])
      (["; c".toList] ++ indentedFirst.lines ++ twoLines.lines ++ blockLines []) :=
    .exchanged _ _ _ [] ⟨['a'], by decide, rfl⟩ ⟨[' ', 'b', ' '], by decide, rfl⟩ (by decide)
  have hparse : parse "; c\n[a]\nk = 1\n  2\n[ b ]\n  k = 3".toList = .ok
      ⟨[⟨['a'], [(['k'], "1\n2".toList)]⟩, ⟨['b'], [(['k'], ['3'])]⟩]⟩ := by rfl
  have herror : parse "[a]\nk".toList = .error ⟨2, .noSeparator ['k']⟩ := by rfl
  have hshows : Shows "; c\n[ b ]\n  k = 3\r\n[a]\nk = 1\n  2\n".toList
      (["; c".toList] ++ indentedFirst.lines ++ twoLines.lines ++ blockLines []) := by rfl
  obtain ⟨c, hc, hnames, hvalues⟩ := parse_rearranged.1 hrearranged (by rfl) hshows hparse
  have hsorted := hnames.trans (List.mergeSort_of_pairwise (by decide))
  refine ⟨hrearranged, hparse, ⟨c, hc, hsorted, ?_, ?_⟩, herror, ?_⟩
  · rw [hvalues]
    rfl
  · rw [hvalues]
    rfl
  · exact (parse_rearranged.2 herror).1 "k = 1\n[".toList

end SuiteRunner.SimulatorConf
