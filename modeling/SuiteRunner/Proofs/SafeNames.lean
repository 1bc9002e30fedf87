import SuiteRunner.FileName
import SuiteRunner.Proofs.Paths

/-!
# Safe names as names of files

* **`mem_fileSafe`** — a safe name has safe characters only;
* `isName_fileSafe_append` — with an extension it is one name, which never leads up;
* `IsSafeName`, the form of safe names;
* `breakDots_eq_self_iff` — a text whose pairs of dots are broken up is the text as it was exactly if
  it had none;
* **`fileSafe_normalizes`** — a name is put into safe form, and left as it is exactly if it had it.
-/

namespace SuiteRunner

open Unicode

/-! ### Characters -/

theorem mem_breakDots {c : Char} {s : List Char} (h : c ∈ breakDots s) : c ∈ s ∨ c = '_' := by
  fun_induction breakDots s with
  | case1 s ih =>
    rcases List.mem_cons.1 h with rfl | h
    · exact .inr rfl
    · rcases List.mem_cons.1 h with rfl | h
      · exact .inr rfl
      · rcases ih h with h | h
        · exact .inl (by simp [h])
        · exact .inr h
  | case2 d s _ ih =>
    rcases List.mem_cons.1 h with rfl | h
    · exact .inl List.mem_cons_self
    · rcases ih h with h | h
      · exact .inl (List.mem_cons_of_mem _ h)
      · exact .inr h
  | case3 => simp at h

/-- **A safe name has safe characters only.** -/
theorem mem_fileSafe {c : Char} {name : String} (h : c ∈ (fileSafe name).toList) :
    isFileSafe c = true := by
  have underscore : isFileSafe '_' = true := by decide
  rw [fileSafe, String.toList_ofList] at h
  rcases mem_breakDots h with h | rfl
  · obtain ⟨d, -, rfl⟩ := List.mem_map.1 h
    split
    · assumption
    · exact underscore
  · exact underscore

theorem slash_notMem_fileSafe (name : String) : '/' ∉ (fileSafe name).toList := by
  intro h
  have unsafe_slash : isFileSafe '/' = false := by decide
  rw [mem_fileSafe h] at unsafe_slash
  cases unsafe_slash

/-- A safe name with an extension of at least two characters after the dot is one name. -/
theorem isName_fileSafe_append (name : String) {extension : String}
    (long : 3 ≤ extension.toList.length) (clean : '/' ∉ extension.toList) :
    Path.IsName (fileSafe name ++ extension) :=
  Path.isName_append (slash_notMem_fileSafe name) long clean

/-! ### Pairs of dots -/

/-- To break up the pairs of dots is to replace them, from left to right and without overlap. -/
theorem breakDots_eq_replaceAll (s : List Char) :
    breakDots s = Text.replaceAll ['.', '.'] ['_', '_'] s := by
  have nonempty : ['.', '.'] ≠ [] := List.cons_ne_nil _ _
  fun_induction breakDots s with
  | case1 s ih =>
    rw [ih]
    exact (Text.replaceAll_prefix_append nonempty ['_', '_'] s).symm
  | case2 c s hpair ih =>
    have hfront : ¬ ['.', '.'] <+: c :: s := by
      rintro ⟨rest, hrest⟩
      obtain ⟨rfl, rfl⟩ := List.cons.inj hrest
      exact hpair rest rfl rfl
    rw [Text.replaceAll_cons_of_not_prefix nonempty hfront, ih]
  | case3 => exact (Text.replaceAll_nil nonempty).symm

theorem length_breakDots (s : List Char) : (breakDots s).length = s.length := by
  fun_induction breakDots s with
  | case1 s ih => simp [ih]
  | case2 c s _ ih => simp [ih]
  | case3 => rfl

/-- No dot comes to the front of a text. -/
theorem head?_of_breakDots {s : List Char} (h : (breakDots s).head? = some '.') :
    s.head? = some '.' := by
  fun_induction breakDots s with
  | case1 s _ => cases h
  | case2 c s _ _ => exact h
  | case3 => cases h

/-- **No two dots follow one another** where the pairs of dots are broken up: of an odd number of
dots, the last one is left. -/
theorem not_dots_infix_breakDots (s : List Char) : ¬ ['.', '.'] <:+: breakDots s := by
  fun_induction breakDots s with
  | case1 s ih =>
    intro h
    have hrest : ['.', '.'] <:+: breakDots s := by simpa [List.infix_cons_iff] using h
    exact ih hrest
  | case2 c s hpair ih =>
    intro h
    rcases List.infix_cons_iff.1 h with hfront | hrest
    · -- The second dot of a pair at the front was there before, so the pair was, too.
      obtain ⟨rfl, after, hafter⟩ := List.cons_prefix_cons.1 hfront
      have hhead : s.head? = some '.' := head?_of_breakDots (hafter ▸ rfl)
      obtain ⟨rest, rfl⟩ := List.head?_eq_some_iff.1 hhead
      exact hpair rest rfl rfl
    · exact ih hrest
  | case3 => simp

theorem breakDots_eq_self_iff {s : List Char} : breakDots s = s ↔ ¬ ['.', '.'] <:+: s := by
  constructor
  · intro h
    rw [← h]
    exact not_dots_infix_breakDots s
  · intro h
    fun_induction breakDots s with
    | case1 s _ => exact absurd ⟨[], s, rfl⟩ h
    | case2 c s _ ih => rw [ih fun hrest => h (List.infix_cons hrest)]
    | case3 => rfl

/-! ### The form of safe names -/

/-- The form of safe names: alphanumeric characters, `-`, `_` and `.`, and never two dots in a row. -/
structure IsSafeName (name : String) : Prop where
  allowed : ∀ c ∈ name.toList, isAlphanumeric c = true ∨ c = '-' ∨ c = '_' ∨ c = '.'
  dotsApart : ¬ ['.', '.'] <:+: name.toList

theorem isFileSafe_iff {c : Char} :
    isFileSafe c = true ↔ isAlphanumeric c = true ∨ c = '-' ∨ c = '_' ∨ c = '.' := by
  simp [isFileSafe, or_assoc]

theorem length_fileSafe (name : String) : (fileSafe name).length = name.length := by
  rw [fileSafe, String.length_ofList, length_breakDots, List.length_map, String.length_toList]

theorem isSafeName_fileSafe (name : String) : IsSafeName (fileSafe name) := by
  constructor
  · intro c hc
    exact isFileSafe_iff.1 (mem_fileSafe hc)
  · rw [fileSafe, String.toList_ofList]
    exact not_dots_infix_breakDots _

/-- A name in safe form is left as it is. -/
theorem IsSafeName.fileSafe_eq {name : String} (h : IsSafeName name) : fileSafe name = name := by
  have hkeep : ∀ c ∈ name.toList, (if isFileSafe c then c else '_') = id c := by
    intro c hc
    rw [if_pos (isFileSafe_iff.2 (h.allowed c hc)), id]
  rw [fileSafe, List.map_congr_left hkeep, List.map_id, breakDots_eq_self_iff.2 h.dotsApart,
    String.ofList_toList]

/-- **A name is put into safe form**, with as many characters as it had; a second time changes
nothing, and a name is left as it is exactly if it had this form. -/
theorem fileSafe_normalizes (name : String) :
    (fileSafe name).length = name.length ∧ IsSafeName (fileSafe name) ∧
      fileSafe (fileSafe name) = fileSafe name ∧ (fileSafe name = name ↔ IsSafeName name) := by
  have hsafe := isSafeName_fileSafe name
  refine ⟨length_fileSafe name, hsafe, hsafe.fileSafe_eq, ?_, IsSafeName.fileSafe_eq⟩
  intro hsame
  rw [← hsame]
  exact hsafe

end SuiteRunner
