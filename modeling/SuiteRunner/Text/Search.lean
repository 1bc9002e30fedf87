/-!
# Searching and replacing in texts

Main definitions:

* `splitAt?`, the first occurrence of a text in a text;
* `contains`, `startsWith`, `endsWith`;
* `replaceAll`, which replaces the occurrences from left to right without overlap; the empty text occurs before
  every character and at the end; its three equations, for a text that is not empty, are `replaceAll_nil`,
  `replaceAll_prefix_append` and `replaceAll_cons_of_not_prefix`;
* `splitOn`, the pieces between the occurrences of a character.
-/

namespace SuiteRunner.Text

/-- The rest of `s` after `p` if `s` starts with it. -/
def stripFront? (p s : List Char) : Option (List Char) :=
  match p, s with
  | [], s => some s
  | _ :: _, [] => none
  | a :: p, b :: s => if a = b then stripFront? p s else none

/-- The text is as long as the part stripped and the rest together. -/
theorem length_of_stripFront? {p s r : List Char} (h : stripFront? p s = some r) :
    r.length + p.length = s.length := by
  induction p generalizing s with
  | nil => simp [stripFront?] at h; simp [h]
  | cons a p ih =>
    cases s with
    | nil => simp [stripFront?] at h
    | cons b s =>
      simp only [stripFront?] at h
      split at h
      · have := ih h
        simp; omega
      · simp at h

theorem stripFront?_eq_some {p s r : List Char} : stripFront? p s = some r ↔ s = p ++ r := by
  induction p generalizing s with
  | nil => rw [stripFront?, Option.some.injEq, List.nil_append]
  | cons a p ih =>
    cases s with
    | nil => simp [stripFront?]
    | cons b s =>
      rw [stripFront?, List.cons_append, List.cons.injEq]
      by_cases hab : a = b
      · rw [if_pos hab, ih]
        simp [hab]
      · rw [if_neg hab]
        simp [Ne.symm hab]

/-- Holds when `s` starts with `p`. -/
def startsWith (s p : List Char) : Bool := (stripFront? p s).isSome

/-- Holds when `s` ends with `p`. -/
def endsWith (s p : List Char) : Bool := startsWith s.reverse p.reverse

/-- The parts of `s` before and after the first occurrence of `p`. -/
def splitAt? (p : List Char) : List Char → Option (List Char × List Char)
  | [] => if p.isEmpty then some ([], []) else none
  | c :: s =>
    match stripFront? p (c :: s) with
    | some rest => some ([], rest)
    | none => (splitAt? p s).map fun (before, after) => (c :: before, after)

/-- Holds when `p` occurs in `s`. -/
def contains (s p : List Char) : Bool := (splitAt? p s).isSome

/-- The pieces of a text between the occurrences of the character `sep`. -/
def splitOn (sep : Char) : List Char → List (List Char)
  | [] => [[]]
  | c :: s =>
    if c = sep then [] :: splitOn sep s
    else
      match splitOn sep s with
      | [] => [[c]]
      | piece :: pieces => (c :: piece) :: pieces

/-- Puts `new` before every character of a text and at its end. -/
def intersperseAll (new : List Char) : List Char → List Char
  | [] => new
  | c :: s => new ++ c :: intersperseAll new s

/-- Replaces the occurrences of `a :: old`, from left to right. -/
def replaceFrom (a : Char) (old new s : List Char) : List Char :=
  match s with
  | [] => []
  | c :: s =>
    if a = c then
      match _found : stripFront? old s with
      | some rest => new ++ replaceFrom a old new rest
      | none => c :: replaceFrom a old new s
    else c :: replaceFrom a old new s
termination_by s.length
decreasing_by
  · have h := length_of_stripFront? _found
    simp only [List.length_cons]
    omega
  · simp only [List.length_cons]
    omega
  · simp only [List.length_cons]
    omega

/-- The text with every occurrence of `old`, found from left to right without overlap, replaced. -/
def replaceAll (old new s : List Char) : List Char :=
  match old with
  | [] => intersperseAll new s
  | a :: old => replaceFrom a old new s

section Replaced

variable {p new s : List Char} {c : Char}

theorem replaceAll_nil (nonempty : p ≠ []) : replaceAll p new [] = [] := by
  cases p with
  | nil => exact absurd rfl nonempty
  | cons a old => rw [replaceAll, replaceFrom]

theorem replaceAll_prefix_append (nonempty : p ≠ []) (new s : List Char) :
    replaceAll p new (p ++ s) = new ++ replaceAll p new s := by
  cases p with
  | nil => exact absurd rfl nonempty
  | cons a old =>
    rw [replaceAll, replaceAll, List.cons_append, replaceFrom, if_pos rfl]
    split
    · rename_i rest hfront
      rw [List.append_cancel_left (stripFront?_eq_some.1 hfront)]
    · rename_i hfront
      rw [stripFront?_eq_some.2 rfl] at hfront
      cases hfront

theorem replaceAll_cons_of_not_prefix (nonempty : p ≠ []) (h : ¬ p <+: c :: s) :
    replaceAll p new (c :: s) = c :: replaceAll p new s := by
  cases p with
  | nil => exact absurd rfl nonempty
  | cons a old =>
    rw [replaceAll, replaceAll, replaceFrom]
    split
    · rename_i hac
      split
      · rename_i rest hfront
        refine absurd ⟨rest, ?_⟩ h
        rw [hac, List.cons_append, ← stripFront?_eq_some.1 hfront]
      · rfl
    · rfl

end Replaced

end SuiteRunner.Text
