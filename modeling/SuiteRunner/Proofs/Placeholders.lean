import SuiteRunner.Execution.Runner
import SuiteRunner.Proofs.FilteredAgain

/-!
# Placeholders that are replaced one after the other

The placeholders of an argument are replaced kind by kind.  That comes to the same as one pass from
left to right, in which what was put in is never looked at again, if no value takes part in a
placeholder that is replaced after it.

* `Text.Inert`, a text that takes no part in any occurrence of another one, whatever is around it;
* `frontValue?` and `substitute`, the pass from left to right;
* `prefix_of_prefix_substitute` — inert values put no new occurrence at the front of a text;
* **`replaceAll_substitute`** — the step: one more kind of placeholder is replaced;
* **`foldl_replaceAll`** — the run: all kinds, one after the other;
* **`Placeholders.expand_eq_substitute`** — the placeholders of a case, with values that are sealed;
* `Placeholders.sealed_of_absolute` — absolute paths without braces are;
* `Placeholders.nestedDirectory_replaced_again`, a directory that is called like a placeholder.
-/

namespace SuiteRunner

open Text

/-! ### Replacing one text -/

namespace Text

variable {p new v : List Char}

/-- No occurrence of `p` has a part in the text `v`, whatever is around it: each one ends before `v`
starts, or starts after `v` has ended.  So none goes across the place of `v` if that is empty. -/
def Inert (p v : List Char) : Prop :=
  ∀ front back before after, front ++ v ++ back = before ++ p ++ after →
    (before ++ p).length ≤ front.length ∨ (front ++ v).length ≤ before.length

theorem Inert.ne_nil (h : Inert p v) (long : 2 ≤ p.length) : v ≠ [] := by
  intro hv
  have hcut : p.take 1 ++ v ++ p.drop 1 = [] ++ p ++ [] := by
    rw [hv, List.append_nil, List.take_append_drop, List.nil_append, List.append_nil]
  have hends := h _ _ _ _ hcut
  simp only [hv, List.length_append, List.length_take, List.length_nil] at hends
  omega

/-- An inert text is left as it is. -/
theorem Inert.replaceAll_append (h : Inert p v) (nonempty : p ≠ []) (t : List Char) :
    replaceAll p new (v ++ t) = v ++ replaceAll p new t := by
  have hpos := List.length_pos_of_ne_nil nonempty
  -- The text is passed character by character: `done` has been passed.
  have hpass : ∀ rest done, v = done ++ rest →
      replaceAll p new (rest ++ t) = rest ++ replaceAll p new t := by
    intro rest
    induction rest with
    | nil => intro done _; rfl
    | cons c rest ih =>
      intro done hv
      have hnot : ¬ p <+: c :: (rest ++ t) := by
        intro hfront
        obtain ⟨after, hafter⟩ := hfront
        have hoccurs : [] ++ v ++ t = done ++ p ++ after := by
          rw [hv, List.append_assoc done p, hafter]
          simp
        have hends := h _ _ _ _ hoccurs
        simp only [hv, List.length_append, List.length_nil, List.length_cons] at hends
        omega
      rw [List.cons_append, replaceAll_cons_of_not_prefix nonempty hnot,
        ih (done ++ [c]) (by simp [hv])]
      rfl
  exact hpass v [] rfl

/-- A text is inert if it starts with a character that `p` has not, and has not the character with
which `p` starts: it cuts off what comes before it, and starts nothing itself. -/
theorem inert_of_stranger {a d : Char} {old rest : List Char} (hd : d ∉ a :: old)
    (ha : a ∉ d :: rest) : Inert (a :: old) (d :: rest) := by
  intro front back before after h
  rw [List.append_assoc, List.append_assoc, List.append_eq_append_iff] at h
  rcases h with ⟨gap, rfl, htext⟩ | ⟨gap, rfl, hplace⟩
  · -- The occurrence does not start inside of the text.
    right
    rcases List.append_eq_append_iff.1 htext with ⟨gap', rfl, -⟩ | ⟨part, hpart, hstart⟩
    · simp
    · cases part with
      | nil => simp [hpart]
      | cons x part =>
        have hx : x = a := (List.cons.inj hstart).1.symm
        exact absurd (hpart ▸ List.mem_append_right gap (hx ▸ List.mem_cons_self)) ha
  · -- The text does not start inside of the occurrence.
    left
    rcases List.append_eq_append_iff.1 hplace with ⟨gap', rfl, -⟩ | ⟨part, hpart, hstart⟩
    · simp
    · cases part with
      | nil => simp [hpart]
      | cons x part =>
        have hx : x = d := (List.cons.inj hstart).1.symm
        exact absurd (hpart ▸ List.mem_append_right gap (hx ▸ List.mem_cons_self)) hd

end Text

/-! ### One pass -/

/-- Names of placeholders with the values that they stand for. -/
abbrev Bindings := List (String × String)

/-- The value of the placeholder with which a text starts, and what comes after the placeholder. -/
def frontValue? (bs : Bindings) (s : List Char) : Option (List Char × List Char) :=
  bs.findSome? fun b => (stripFront? (placeholder b.1) s).map fun rest => (b.2.toList, rest)

section Pass

variable {bs : Bindings} {s t p value rest : List Char} {c : Char} {name : String}

theorem frontValue?_eq_some (h : frontValue? bs s = some (value, rest)) :
    ∃ b ∈ bs, s = placeholder b.1 ++ rest ∧ value = b.2.toList := by
  obtain ⟨b, hb, hfront⟩ := List.exists_of_findSome?_eq_some h
  obtain ⟨after, hafter, hpair⟩ := Option.map_eq_some_iff.1 hfront
  cases hpair
  exact ⟨b, hb, stripFront?_eq_some.1 hafter, rfl⟩

theorem frontValue?_eq_none : frontValue? bs s = none ↔ ∀ b ∈ bs, ¬ placeholder b.1 <+: s := by
  rw [frontValue?, List.findSome?_eq_none_iff]
  refine forall_congr' fun b => forall_congr' fun _ => ?_
  rw [Option.map_eq_none_iff, ← startsWith_iff, startsWith, Bool.not_eq_true,
    Option.isSome_eq_false_iff, Option.isNone_iff_eq_none]

theorem frontValue?_append (bs bs' : Bindings) (s : List Char) :
    frontValue? (bs ++ bs') s = (frontValue? bs s).or (frontValue? bs' s) :=
  List.findSome?_append

theorem length_placeholder (name : String) : 2 ≤ (placeholder name).length := by
  simp [placeholder]

theorem length_of_frontValue? (h : frontValue? bs s = some (value, rest)) :
    rest.length < s.length := by
  obtain ⟨b, -, rfl, -⟩ := frontValue?_eq_some h
  have hlong := length_placeholder b.1
  rw [List.length_append]
  omega

/-- The text with all placeholders replaced by their values, in one pass from left to right.  The
pass goes on behind a value. -/
def substitute (bs : Bindings) (s : List Char) : List Char :=
  match s with
  | [] => []
  | c :: s =>
    match _found : frontValue? bs (c :: s) with
    | some (value, rest) => value ++ substitute bs rest
    | none => c :: substitute bs s
termination_by s.length
decreasing_by
  · exact length_of_frontValue? _found
  · exact Nat.lt_succ_self _

theorem substitute_of_front (h : frontValue? bs s = some (value, rest)) :
    substitute bs s = value ++ substitute bs rest := by
  cases s with
  | nil => exact absurd (length_of_frontValue? h) (Nat.not_lt_zero _)
  | cons c s =>
    rw [substitute]
    split
    · rename_i value' rest' hfound
      rw [hfound, Option.some.injEq, Prod.mk.injEq] at h
      rw [h.1, h.2]
    · rename_i hfound
      rw [hfound] at h
      cases h

theorem substitute_cons (h : frontValue? bs (c :: s) = none) :
    substitute bs (c :: s) = c :: substitute bs s := by
  rw [substitute]
  split
  · rename_i value rest hfound
    rw [hfound] at h
    cases h
  · rfl

/-- Inert values put no new occurrence at the front of a text: `x` stands before what was
replaced. -/
theorem prefix_of_prefix_substitute (inert : ∀ b ∈ bs, Inert p b.2.toList) (long : 2 ≤ p.length)
    (x s : List Char) (h : p <+: x ++ substitute bs s) : p <+: x ++ s := by
  induction s using substitute.induct bs generalizing x with
  | case1 =>
    rw [substitute] at h
    exact h
  | case2 c s value rest hfound _ =>
    -- The occurrence ends before the value, so it is in `x`.
    obtain ⟨b, hb, -, rfl⟩ := frontValue?_eq_some hfound
    rw [substitute_of_front hfound] at h
    obtain ⟨after, hafter⟩ := h
    have hoccurs : x ++ b.2.toList ++ substitute bs rest = [] ++ p ++ after := by
      rw [List.nil_append, hafter, List.append_assoc]
    have hvalue := List.length_pos_of_ne_nil ((inert b hb).ne_nil long)
    have hends := inert b hb _ _ _ _ hoccurs
    simp only [List.length_append, List.length_nil, Nat.zero_add] at hends
    have hx : p <+: x := by
      refine List.prefix_of_prefix_length_le ⟨after, hafter⟩ (List.prefix_append x _) ?_
      omega
    exact hx.trans (List.prefix_append x _)
  | case3 c s hfound ih =>
    rw [substitute_cons hfound] at h
    have hnext := ih (x ++ [c]) (by simpa using h)
    simpa using hnext

/-- A text without an opening brace has no placeholder in it. -/
theorem substitute_append_of_notMem (h : '{' ∉ s) (t : List Char) :
    substitute bs (s ++ t) = s ++ substitute bs t := by
  induction s with
  | nil => rfl
  | cons c s ih =>
    rw [List.mem_cons, not_or] at h
    have hnone : frontValue? bs (c :: (s ++ t)) = none := by
      refine frontValue?_eq_none.2 fun b _ hfront => h.1 ?_
      exact (List.cons_prefix_cons.1 hfront).1
    rw [List.cons_append, substitute_cons hnone, ih h.2]
    rfl

/-- A placeholder of another kind has no placeholder in it, so the pass goes over it. -/
theorem substitute_placeholder (named : '{' ∉ name.toList)
    (h : frontValue? bs (placeholder name ++ rest) = none) :
    substitute bs (placeholder name ++ rest) = placeholder name ++ substitute bs rest := by
  have hinside : '{' ∉ name.toList ++ ['}'] := by simpa using named
  have hopen : substitute bs (placeholder name ++ rest) =
      '{' :: substitute bs (name.toList ++ ['}'] ++ rest) := substitute_cons h
  rw [substitute_append_of_notMem hinside] at hopen
  exact hopen

/-- **The step**: what one pass makes, with one more kind of placeholder replaced after it, is made
by a pass that replaces these, too. -/
theorem replaceAll_substitute (named : '{' ∉ name.toList)
    (inert : ∀ b ∈ bs, Inert (placeholder name) b.2.toList) (value : String) (s : List Char) :
    replaceAll (placeholder name) value.toList (substitute bs s) =
      substitute (bs ++ [(name, value)]) s := by
  have hlong := length_placeholder name
  have nonempty : placeholder name ≠ [] := by simp [placeholder]
  -- The induction follows the pass that replaces all kinds.
  induction s using substitute.induct (bs ++ [(name, value)]) with
  | case1 => rw [substitute, substitute, replaceAll_nil nonempty]
  | case2 c s v rest hfound ih =>
    rw [substitute_of_front hfound, ← ih]
    rw [frontValue?_append, Option.or_eq_some_iff] at hfound
    rcases hfound with hfound | ⟨hnone, hlast⟩
    · obtain ⟨b, hb, -, rfl⟩ := frontValue?_eq_some hfound
      rw [substitute_of_front hfound, (inert b hb).replaceAll_append nonempty]
    · obtain ⟨b, hb, hsplit, rfl⟩ := frontValue?_eq_some hlast
      obtain rfl := List.mem_singleton.1 hb
      rw [hsplit] at hnone ⊢
      rw [substitute_placeholder named hnone, replaceAll_prefix_append nonempty]
  | case3 c s hfound ih =>
    rw [substitute_cons hfound, ← ih]
    rw [frontValue?_append, Option.or_eq_none_iff] at hfound
    have hfront := frontValue?_eq_none.1 hfound.2 _ (List.mem_singleton_self _)
    -- What was put in before does not make a placeholder of the new kind, either.
    have hnot : ¬ placeholder name <+: c :: substitute bs s :=
      mt (prefix_of_prefix_substitute inert hlong [c] s) hfront
    rw [substitute_cons hfound.1, replaceAll_cons_of_not_prefix nonempty hnot]

theorem substitute_nil (s : List Char) : substitute [] s = s := by
  induction s with
  | nil => rw [substitute]
  | cons c s ih => rw [substitute_cons rfl, ih]

/-- **The run**: placeholders that are replaced kind by kind are replaced as in one pass, if no value
takes part in a placeholder of a later kind. -/
theorem foldl_replaceAll (named : ∀ b ∈ bs, '{' ∉ b.1.toList)
    (sealed : bs.Pairwise fun b b' => Inert (placeholder b'.1) b.2.toList) (s : List Char) :
    bs.foldl (fun s b => replaceAll (placeholder b.1) b.2.toList s) s = substitute bs s := by
  induction bs using List.reverseRecOn with
  | nil => exact (substitute_nil s).symm
  | append_singleton bs b ih =>
    obtain ⟨hbs, -, hlast⟩ := List.pairwise_append.1 sealed
    rw [List.foldl_append, List.foldl_cons, List.foldl_nil,
      ih (fun b' hb' => named b' (List.mem_append_left _ hb')) hbs]
    exact replaceAll_substitute (named b (by simp)) (fun b' hb' => hlast b' hb' b (by simp)) b.2 s

end Pass

/-! ### The placeholders of a case -/

namespace Placeholders

variable {p : Placeholders}

/-- The placeholders in the order in which they are replaced. -/
def bindings (p : Placeholders) : Bindings :=
  [("suite_dir", p.suiteDir), ("output_dir", p.outputDir), ("test_name", p.testName)]

/-- No value takes part in a placeholder that is replaced after it, whatever is around it. -/
def Sealed (p : Placeholders) : Prop :=
  p.bindings.Pairwise fun b b' => Inert (placeholder b'.1) b.2.toList

/-- **Sealed values are put in at once**: the placeholders of a text are replaced by their values in
one pass from left to right, and what was put in stays as it is. -/
theorem expand_eq_substitute (sealed : p.Sealed) (text : String) :
    p.expand text = String.ofList (substitute p.bindings text.toList) := by
  have named : ∀ b ∈ p.bindings, '{' ∉ b.1.toList := by
    intro b hb
    simp only [bindings, List.mem_cons, List.not_mem_nil, or_false] at hb
    rcases hb with rfl | rfl | rfl
    · exact (by decide : '{' ∉ "suite_dir".toList)
    · exact (by decide : '{' ∉ "output_dir".toList)
    · exact (by decide : '{' ∉ "test_name".toList)
  rw [← foldl_replaceAll named sealed]
  rfl

/-- Absolute paths without braces are sealed, whatever the case is called. -/
theorem sealed_of_absolute {suite output : List Char} (hsuite : p.suiteDir.toList = '/' :: suite)
    (houtput : p.outputDir.toList = '/' :: output) (bareSuite : '{' ∉ suite)
    (bareOutput : '{' ∉ output) : p.Sealed := by
  have hpath : ∀ (name : String) (path : List Char), '/' ∉ placeholder name → '{' ∉ path →
      Inert (placeholder name) ('/' :: path) := by
    intro name path hname hbare
    exact inert_of_stranger hname (by simpa using hbare)
  simp only [Sealed, bindings, List.pairwise_cons, List.mem_cons, List.not_mem_nil, or_false,
    forall_eq_or_imp, forall_eq, hsuite, houtput, List.Pairwise.nil, and_true, false_implies,
    implies_true]
  exact ⟨⟨hpath _ _ (by decide) bareSuite, hpath _ _ (by decide) bareSuite⟩,
    hpath _ _ (by decide) bareOutput⟩

/-- A case that is called like a placeholder, in directories that are not. -/
def plainDirectories : Placeholders := ⟨"/suites", "/out/demo", "\x7bsuite_dir\x7d"⟩

theorem plainDirectories_put_in :
    plainDirectories.Sealed ∧
    plainDirectories.expand "\x7b\x7boutput_dir\x7d/\x7btest_name\x7d.csv \x7bsuite_dir" =
      String.ofList (substitute plainDirectories.bindings
        "\x7b\x7boutput_dir\x7d/\x7btest_name\x7d.csv \x7bsuite_dir".toList) ∧
    plainDirectories.expand "\x7b\x7boutput_dir\x7d/\x7btest_name\x7d.csv \x7bsuite_dir" =
      "\x7b/out/demo/\x7bsuite_dir\x7d.csv \x7bsuite_dir" := by
  have sealed : plainDirectories.Sealed :=
    @sealed_of_absolute plainDirectories "suites".toList "out/demo".toList (by decide) (by decide)
      (by decide) (by decide)
  exact ⟨sealed, expand_eq_substitute sealed _, by cbv⟩

/-- A suite in a directory that is called like a placeholder. -/
def nestedDirectory : Placeholders := ⟨"/s/\x7btest_name\x7d", "/out", "ring"⟩

/-- The directory of the suite does not come out: the name of the case is put into it. -/
theorem nestedDirectory_replaced_again :
    nestedDirectory.expand "\x7bsuite_dir\x7d" = "/s/ring" ∧
    String.ofList (substitute nestedDirectory.bindings "\x7bsuite_dir\x7d".toList) =
      "/s/\x7btest_name\x7d" ∧
    nestedDirectory.expand "\x7bsuite_dir\x7d" ≠
      String.ofList (substitute nestedDirectory.bindings "\x7bsuite_dir\x7d".toList) := by
  have hput : nestedDirectory.expand "\x7bsuite_dir\x7d" = "/s/ring" := by cbv
  have hfront : frontValue? nestedDirectory.bindings "\x7bsuite_dir\x7d".toList =
      some (nestedDirectory.suiteDir.toList, []) := by decide +kernel
  have honce : String.ofList (substitute nestedDirectory.bindings "\x7bsuite_dir\x7d".toList) =
      "/s/\x7btest_name\x7d" := by
    rw [substitute_of_front hfront, substitute, List.append_nil, String.ofList_toList]
    rfl
  refine ⟨hput, honce, ?_⟩
  rw [hput, honce]
  decide

end Placeholders

end SuiteRunner
