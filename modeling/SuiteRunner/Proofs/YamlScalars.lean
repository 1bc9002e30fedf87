import Mathlib.Data.List.TakeWhile
import SuiteRunner.Proofs.JsonReading
import SuiteRunner.Yaml.Printer
import SuiteRunner.Yaml.Scalar

/-!
# Scalars are read back

A scalar is read word by word: the words of a text have no blanks, and the blanks between them are
kept.  A bare scalar ends before a colon, or where the next line starts less deep; a quoted one ends
at its quotation mark.

* `blanks_induction`, the induction over the words of a text;
* `IsBare`, the texts that are read as they stand, and `EndsPlain`, where they end;
* **`plain?_bare`** — a bare text is read as a plain scalar;
* **`quoted?_quote`** — a text in quotation marks is read as a quoted scalar.
-/

namespace SuiteRunner.Yaml

variable {s w rest tail acc : List Char} {c : Char} {i l k n fuel : Nat}

/-! ### Words -/

/-- Texts are words with blanks between them. -/
theorem blanks_induction {P : List Char → Prop} (word : ∀ w, ' ' ∉ w → P w)
    (more : ∀ w n rest, ' ' ∉ w → rest.head? ≠ some ' ' → P rest →
      P (w ++ (List.replicate (n + 1) ' ' ++ rest))) (s : List Char) : P s := by
  induction hlength : s.length using Nat.strongRecOn generalizing s with
  | _ length ih =>
    have hword : ' ' ∉ s.takeWhile (· != ' ') := fun hmem => by
      simpa using List.mem_takeWhile_imp hmem
    have hsplit := List.takeWhile_append_dropWhile (p := (· != ' ')) (l := s)
    cases hrest : s.dropWhile (· != ' ') with
    | nil =>
      rw [hrest, List.append_nil] at hsplit
      exact hsplit ▸ word _ hword
    | cons c after =>
      have hblank : c = ' ' := by
        have hhead := List.head?_dropWhile_not (· != ' ') s
        rw [hrest] at hhead
        simpa using hhead
      subst hblank
      -- The blanks after the word, and what follows them.
      have hblanks : after.takeWhile (· == ' ') =
          List.replicate (after.takeWhile (· == ' ')).length ' ' :=
        List.eq_replicate_iff.2 ⟨rfl, fun b hb => by simpa using List.mem_takeWhile_imp hb⟩
      have hafter := List.takeWhile_append_dropWhile (p := (· == ' ')) (l := after)
      have hnext : (after.dropWhile (· == ' ')).head? ≠ some ' ' := fun h => by
        have hhead := List.head?_dropWhile_not (· == ' ') after
        rw [h] at hhead
        simp at hhead
      have hs : s = s.takeWhile (· != ' ') ++
          (List.replicate ((after.takeWhile (· == ' ')).length + 1) ' ' ++
            after.dropWhile (· == ' ')) := by
        rw [List.replicate_succ, List.cons_append, ← hblanks, hafter, ← hrest, hsplit]
      have hshort : (after.dropWhile (· == ' ')).length < length := by
        have := congrArg List.length hs
        simp only [List.length_append, List.length_replicate] at this
        omega
      rw [hs]
      exact more _ _ _ hword hnext (ih _ hshort _ rfl)

/-! ### Cursors -/

namespace Cursor

theorem skip_cons (h : c ≠ '\n') :
    (⟨c :: rest, i, l, k⟩ : Cursor).skip = ⟨rest, i + 1, l, k + 1⟩ := by
  rw [skip.eq_def]
  split
  · rename_i heq
    cases heq
  · rename_i heq
    exact absurd (List.cons.inj heq).1 h
  · rename_i heq
    obtain ⟨-, rfl⟩ := List.cons.inj heq
    rfl

theorem skipN_append (h : '\n' ∉ s) :
    (⟨s ++ rest, i, l, k⟩ : Cursor).skipN s.length =
      ⟨rest, i + s.length, l, k + s.length⟩ := by
  induction s generalizing i k with
  | nil => rfl
  | cons c s ih =>
    rw [List.mem_cons, not_or] at h
    rw [List.length_cons, skipN, List.cons_append, skip_cons (Ne.symm h.1), ih h.2]
    simp only [Nat.add_assoc, Nat.add_comm 1]

theorem skipLine_newLine :
    (⟨'\n' :: rest, i, l, k⟩ : Cursor).skipLine = ⟨rest, i + 1, l + 1, 0⟩ := rfl

/-- Document marks stand at the start of a line. -/
theorem atMark_of_pos (h : 0 < k) (sign : Char) :
    (⟨rest, i, l, k⟩ : Cursor).atMark sign = false := by
  have hcol : k ≠ 0 := by omega
  simp [atMark, hcol]

end Cursor

/-! ### Bare texts -/

/-- The characters of bare texts, but for blanks. -/
def IsBareChar (c : Char) : Prop :=
  c ≠ ':' ∧ c ≠ '#' ∧ c ≠ '\t' ∧ c ≠ '\n' ∧ c ≠ '\r' ∧ c ≠ '\x00'

/-- The text may stand without quotation marks, if it does not start with a sign. -/
structure IsBare (s : List Char) : Prop where
  chars : ∀ c ∈ s, IsBareChar c
  nonempty : s ≠ []
  first : s.head? ≠ some ' '
  last : s.getLast? ≠ some ' '

theorem plainStops_bare (hc : IsBareChar c) (hblank : c ≠ ' ') :
    plainStops false ⟨c :: rest, i, l, k⟩ = false := by
  obtain ⟨hcolon, -, htab, hline, hreturn, hend⟩ := hc
  simp [plainStops, Cursor.head, isBlankOrEnd, isBlank, isBreakOrEnd, isBreak, isEnd, hcolon,
    hblank, htab, hline, hreturn, hend]

/-- A word of a bare text is read. -/
theorem plainWord_append (hw : ∀ c ∈ w, IsBareChar c ∧ c ≠ ' ')
    (stops : ∀ i k, plainStops false ⟨rest, i, l, k⟩ = true) (hfuel : w.length < fuel) :
    plainWord false fuel acc ⟨w ++ rest, i, l, k⟩ =
      (w.reverse ++ acc, ⟨rest, i + w.length, l, k + w.length⟩) := by
  induction w generalizing fuel acc i k with
  | nil =>
    obtain ⟨fuel, rfl⟩ := Nat.exists_eq_add_one_of_ne_zero (Nat.ne_of_gt hfuel)
    rw [plainWord, List.nil_append, if_pos (stops i k)]
    rfl
  | cons c w ih =>
    obtain ⟨fuel, rfl⟩ := Nat.exists_eq_add_one_of_ne_zero (Nat.ne_of_gt (Nat.zero_lt_of_lt hfuel))
    obtain ⟨⟨hc, hblank⟩, hw⟩ := List.forall_mem_cons.1 hw
    rw [plainWord, List.cons_append, plainStops_bare hc hblank, if_neg Bool.false_ne_true,
      Cursor.skip_cons hc.2.2.2.1, ih hw (by simpa using hfuel)]
    simp [Cursor.head, Nat.add_assoc, Nat.add_comm 1]

/-! ### Blanks -/

/-- What stands between words, with more blanks. -/
def Folding.addBlanks (f : Folding) (n : Nat) : Folding :=
  if f.folded then f else { f with blanks := f.blanks ++ List.replicate n ' ' }

theorem Folding.addBlanks_zero (f : Folding) : f.addBlanks 0 = f := by
  rw [addBlanks, List.replicate_zero, List.append_nil]
  split <;> rfl

theorem Folding.addBlanks_addBlank (f : Folding) (n : Nat) :
    (f.addBlank ' ').addBlanks n = f.addBlanks (n + 1) := by
  cases hfolded : f.folded <;> simp [addBlanks, addBlank, hfolded, List.replicate_succ]

theorem length_blanks : (List.replicate n ' ' ++ rest).length = n + rest.length := by
  rw [List.length_append, List.length_replicate]

/-- The text goes on with neither a blank nor a line break. -/
def GoesOn (s : List Char) : Prop := ∀ c ∈ s.head?, isBlank c = false ∧ isBreak c = false

theorem GoesOn.head (h : GoesOn rest) : isBlank (⟨rest, i, l, k⟩ : Cursor).head = false ∧
    isBreak (⟨rest, i, l, k⟩ : Cursor).head = false := by
  cases rest with
  | nil => exact ⟨rfl, rfl⟩
  | cons c rest => exact h c rfl

/-- Blanks after a word of a plain scalar, or at the start of a line, are read. -/
theorem plainFolding?_blanks {indent : Int} {f : Folding} (hrest : GoesOn rest) (hfuel : n < fuel) :
    plainFolding? indent fuel f ⟨List.replicate n ' ' ++ rest, i, l, k⟩ =
      some (f.addBlanks n, ⟨rest, i + n, l, k + n⟩) := by
  induction n generalizing fuel f i k with
  | zero =>
    obtain ⟨fuel, rfl⟩ := Nat.exists_eq_add_one_of_ne_zero (Nat.ne_of_gt hfuel)
    obtain ⟨hblank, hbreak⟩ := hrest.head (i := i) (l := l) (k := k)
    simp [plainFolding?, hblank, hbreak, f.addBlanks_zero]
  | succ n ih =>
    obtain ⟨fuel, rfl⟩ := Nat.exists_eq_add_one_of_ne_zero (Nat.ne_of_gt (Nat.zero_lt_of_lt hfuel))
    rw [plainFolding?, List.replicate_succ, List.cons_append, Cursor.skip_cons (by decide)]
    show (if f.folded && decide _ && decide (' ' = '\t') then none
      else plainFolding? indent fuel (f.addBlank ' ') _) = _
    rw [show decide (' ' = '\t') = false from rfl, Bool.and_false, if_neg Bool.false_ne_true,
      ih (by omega), Folding.addBlanks_addBlank]
    simp [Nat.add_assoc, Nat.add_comm 1]

/-- Blanks in a quoted scalar are read. -/
theorem readFolding_blanks {f : Folding} (hrest : GoesOn rest) (hfuel : n < fuel) :
    readFolding fuel f ⟨List.replicate n ' ' ++ rest, i, l, k⟩ =
      (f.addBlanks n, ⟨rest, i + n, l, k + n⟩) := by
  induction n generalizing fuel f i k with
  | zero =>
    obtain ⟨fuel, rfl⟩ := Nat.exists_eq_add_one_of_ne_zero (Nat.ne_of_gt hfuel)
    obtain ⟨hblank, hbreak⟩ := hrest.head (i := i) (l := l) (k := k)
    simp [readFolding, hblank, hbreak, f.addBlanks_zero]
  | succ n ih =>
    obtain ⟨fuel, rfl⟩ := Nat.exists_eq_add_one_of_ne_zero (Nat.ne_of_gt (Nat.zero_lt_of_lt hfuel))
    rw [readFolding, List.replicate_succ, List.cons_append, Cursor.skip_cons (by decide)]
    show readFolding fuel (f.addBlank ' ') _ = _
    rw [ih (by omega), Folding.addBlanks_addBlank]
    simp [Nat.add_assoc, Nat.add_comm 1]

/-! ### Plain scalars -/

/-- A plain scalar ends at the text, when a word has been read.  The flag holds if this is because
the next line starts less deep. -/
structure EndsPlain (indent : Int) (tail : List Char) (i l k : Nat) (broken : Bool)
    (after : Cursor) : Prop where
  stops : ∀ i k, plainStops false ⟨tail, i, l, k⟩ = true
  ends : ∀ acc, afterWord? false indent acc .none ⟨tail, i, l, k⟩ = some (.ends acc broken after) ∨
    ∃ f, afterWord? false indent acc .none ⟨tail, i, l, k⟩ = some (.goesOn acc f after) ∧
      plainStep? false indent acc f after = some (.ends acc broken after)

/-- A plain scalar ends before the colon after a key. -/
theorem endsPlain_colon {indent : Int} (hc : isBlankOrEnd c = true) :
    EndsPlain indent (':' :: c :: rest) i l k false ⟨':' :: c :: rest, i, l, k⟩ where
  stops i k := by simp [plainStops, Cursor.head, Cursor.peek, hc]
  ends acc := .inl rfl

/-- A plain scalar ends with its line, if the next line starts less deep or is none. -/
theorem endsPlain_newLine {indent : Int} (hrest : GoesOn rest)
    (margin : (n : Int) < indent ∨ rest = []) :
    EndsPlain indent ('\n' :: (List.replicate n ' ' ++ rest)) i l k true
      ⟨rest, i + 1 + n, l + 1, n⟩ where
  stops i k := rfl
  ends acc := by
    have hline : plainFolding? indent ((List.replicate n ' ' ++ rest).length + 1 + 1) .none
        ⟨'\n' :: (List.replicate n ' ' ++ rest), i, l, k⟩ =
        some (⟨[], true, 0, true⟩, ⟨rest, i + 1 + n, l + 1, n⟩) := by
      rw [plainFolding?]
      show plainFolding? indent _ (Folding.addBreak .none)
        (Cursor.skipLine ⟨'\n' :: (List.replicate n ' ' ++ rest), i, l, k⟩) = _
      rw [Cursor.skipLine_newLine, plainFolding?_blanks hrest (by rw [length_blanks]; omega),
        Nat.zero_add]
      rfl
    have hafter : afterWord? false indent acc .none
        ⟨'\n' :: (List.replicate n ' ' ++ rest), i, l, k⟩ =
        if (n : Int) < indent then some (.ends acc true ⟨rest, i + 1 + n, l + 1, n⟩)
        else some (.goesOn acc ⟨[], true, 0, true⟩ ⟨rest, i + 1 + n, l + 1, n⟩) := by
      rw [afterWord?, List.length_cons, hline]
      simp [Cursor.head, isBlank, isBreak]
    rw [hafter]
    split
    · exact .inl rfl
    · obtain rfl := margin.resolve_left ‹_›
      refine .inr ⟨_, rfl, ?_⟩
      simp [plainStep?, afterWord?, Cursor.atMark, Cursor.peek, Cursor.head, plainStops,
        isBlankOrEnd, isBreakOrEnd, isEnd, isBlank, isBreak]

/-- A plain scalar reads a word, and what is after it. -/
theorem plainStep?_word {indent : Int} {f : Folding} (hw : ∀ c ∈ w, IsBareChar c ∧ c ≠ ' ')
    (hsome : w ≠ []) (hmark : (⟨w ++ rest, i, l, k⟩ : Cursor).atMark '-' = false ∧
      (⟨w ++ rest, i, l, k⟩ : Cursor).atMark '.' = false)
    (stops : ∀ i k, plainStops false ⟨rest, i, l, k⟩ = true) :
    plainStep? false indent acc f ⟨w ++ rest, i, l, k⟩ =
      afterWord? false indent (w.reverse ++ f.text.reverse ++ acc) .none
        ⟨rest, i + w.length, l, k + w.length⟩ := by
  have hlength : w.length < (w ++ rest).length + 1 := by
    rw [List.length_append]
    omega
  have hword : plainWord false ((w ++ rest).length + 1) [] ⟨w ++ rest, i, l, k⟩ = _ :=
    plainWord_append hw stops hlength
  obtain ⟨c, w', rfl⟩ := List.exists_cons_of_ne_nil hsome
  obtain ⟨⟨hc, hblank⟩, -⟩ := List.forall_mem_cons.1 hw
  have hcomment : (⟨c :: (w' ++ rest), i, l, k⟩ : Cursor).head ≠ '#' := hc.2.1
  rw [List.cons_append] at hmark hword ⊢
  rw [plainStep?, if_neg (by simp [hmark, hcomment]), plainStops_bare hc hblank,
    if_neg Bool.false_ne_true, hword, List.append_nil]

/-- A bare text that is more than a word goes on with a bare text. -/
theorem IsBare.of_words (bare : IsBare (w ++ (List.replicate (n + 1) ' ' ++ rest)))
    (hrest : rest.head? ≠ some ' ') : w ≠ [] ∧ IsBare rest := by
  obtain ⟨hchars, -, hfirst, hlast⟩ := bare
  refine ⟨fun hw => ?_, fun c hc => hchars c (by simp [hc]), fun hnil => ?_, hrest, ?_⟩
  · rw [hw, List.nil_append, List.replicate_succ] at hfirst
    exact hfirst rfl
  · rw [hnil, List.append_nil, List.replicate_succ', ← List.append_assoc,
      List.getLast?_concat] at hlast
    exact hlast rfl
  · intro h
    rw [List.getLast?_append, List.getLast?_append, h] at hlast
    exact hlast rfl

/-- The blanks after a word of a plain scalar are read, if the word does not start too far left. -/
theorem afterWord?_blanks {indent : Int} (hrest : GoesOn rest) (hk : indent ≤ (k + (n + 1) : Nat)) :
    afterWord? false indent acc .none ⟨List.replicate (n + 1) ' ' ++ rest, i, l, k⟩ =
      some (.goesOn acc (Folding.none.addBlanks (n + 1))
        ⟨rest, i + (n + 1), l, k + (n + 1)⟩) := by
  have hblank : (⟨List.replicate (n + 1) ' ' ++ rest, i, l, k⟩ : Cursor).head = ' ' := rfl
  rw [afterWord?, hblank, plainFolding?_blanks hrest (by simp only [length_blanks]; omega)]
  simp only [isBlank, Bool.not_false, Bool.true_and, decide_eq_true_eq]
  rw [if_neg (by simp), if_neg (by omega)]

/-- **A bare text is read up to its end.**  The induction is on its words. -/
theorem plainFrom?_bare {indent : Int} {f : Folding} {broken : Bool} {after : Cursor} {i' k' : Nat}
    (bare : IsBare s) (hmark : (⟨s ++ tail, i, l, k⟩ : Cursor).atMark '-' = false ∧
      (⟨s ++ tail, i, l, k⟩ : Cursor).atMark '.' = false) (inside : indent ≤ k + 1)
    (ends : EndsPlain indent tail i' l k' broken after) (hi : i' = i + s.length)
    (hk : k' = k + s.length) (hfuel : s.length < fuel) :
    plainFrom? false indent fuel acc f ⟨s ++ tail, i, l, k⟩ =
      some (String.ofList (acc.reverse ++ f.text ++ s), broken, after) := by
  induction s using blanks_induction generalizing fuel acc f i k with
  | word w hw =>
    subst hi hk
    have hlength : 0 < w.length := List.length_pos_iff.2 bare.nonempty
    obtain ⟨fuel, rfl⟩ : ∃ n, fuel = n + 2 := ⟨fuel - 2, by omega⟩
    have hchars : ∀ c ∈ w, IsBareChar c ∧ c ≠ ' ' :=
      fun c hc => ⟨bare.chars c hc, fun h => hw (h ▸ hc)⟩
    rw [plainFrom?, plainStep?_word hchars bare.nonempty hmark ends.stops]
    rcases ends.ends (w.reverse ++ f.text.reverse ++ acc) with hends | ⟨g, hgoes, hlast⟩
    · rw [hends]
      simp
    · rw [hgoes]
      dsimp only
      rw [plainFrom?, hlast]
      simp
  | more w n rest hw hrest ih =>
    obtain ⟨hsome, hbare⟩ := bare.of_words hrest
    have hlength : 0 < w.length := List.length_pos_iff.2 hsome
    simp only [List.length_append, List.length_replicate] at hi hk hfuel
    obtain ⟨fuel, rfl⟩ : ∃ n, fuel = n + 1 := ⟨fuel - 1, by omega⟩
    have hchars : ∀ c ∈ w, IsBareChar c ∧ c ≠ ' ' :=
      fun c hc => ⟨bare.chars c (by simp [hc]), fun h => hw (h ▸ hc)⟩
    have hgoes : GoesOn (rest ++ tail) := by
      obtain ⟨c, rest, rfl⟩ := List.exists_cons_of_ne_nil hbare.nonempty
      obtain ⟨-, -, htab, hline, hreturn, -⟩ := hbare.chars c List.mem_cons_self
      have hblank : c ≠ ' ' := fun h => hrest (by rw [h]; rfl)
      rintro d ⟨⟩
      simp [isBlank, isBreak, hblank, htab, hline, hreturn]
    rw [List.append_assoc, List.append_assoc] at hmark ⊢
    rw [plainFrom?, plainStep?_word hchars hsome hmark fun _ _ => rfl,
      afterWord?_blanks hgoes (by omega)]
    dsimp only
    rw [ih hbare ⟨Cursor.atMark_of_pos (by omega) _, Cursor.atMark_of_pos (by omega) _⟩ (by omega)
      (by omega) (by omega) (by omega)]
    simp [Folding.addBlanks, Folding.none, Folding.text]

/-- **A bare text is read as a plain scalar.** -/
theorem plain?_bare {outer : Int} {broken : Bool} {after : Cursor} {s : String}
    (bare : IsBare s.toList)
    (hmark : (⟨s.toList ++ tail, i, l, k⟩ : Cursor).atMark '-' = false ∧
      (⟨s.toList ++ tail, i, l, k⟩ : Cursor).atMark '.' = false) (inside : outer ≤ k)
    (ends : EndsPlain (outer + 1) tail (i + s.toList.length) l (k + s.toList.length) broken after) :
    plain? false outer ⟨s.toList ++ tail, i, l, k⟩ = some (s, broken, after) := by
  rw [plain?, plainFrom?_bare bare hmark (by omega) ends rfl rfl
    (by simp only [List.length_append]; omega)]
  simp [Folding.none, Folding.text]

/-! ### Quoted scalars -/

/-- A character that is printed ends neither a line nor the text. -/
theorem goesOn_of_prints (h : 0x20 ≤ c.toNat) :
    isBreakOrEnd c = false ∧ (c ≠ ' ' → isBlank c = false) := by
  have hlow : ∀ d : Char, d.toNat < 0x20 → c ≠ d := by
    rintro d hd rfl
    omega
  refine ⟨?_, fun hblank => ?_⟩
  · simp [isBreakOrEnd, isBreak, isEnd, hlow '\n' (by decide), hlow '\r' (by decide),
      hlow '\x00' (by decide)]
  · simp [isBlank, hblank, hlow '\t' (by decide)]

/-- How a character is written between quotation marks: by an escape of its own, by its number, or
as it is. -/
theorem escapeChar_cases (c : Char) :
    (∃ e, escapeChar c = ['\\', e] ∧ escape? e = some c ∧ isBreak e = false) ∨
    (∃ a b, escapeChar c = ['\\', 'u', '0', '0', a, b] ∧ a ≠ '\n' ∧ b ≠ '\n' ∧
      Numeral.digits? 16 ['0', '0', a, b] = some c.toNat) ∨
    (escapeChar c = [c] ∧ 0x20 ≤ c.toNat ∧ c ≠ '"' ∧ c ≠ '\\') := by
  rw [escapeChar]
  split
  · rename_i hc
    subst hc
    exact .inr (.inl ⟨'7', 'f', rfl, by decide, by decide, rfl⟩)
  · rw [Json.escapeChar.eq_def]
    split
    · exact .inl ⟨'"', rfl, rfl, rfl⟩
    · exact .inl ⟨'\\', rfl, rfl, rfl⟩
    · exact .inl ⟨'n', rfl, rfl, rfl⟩
    · exact .inl ⟨'r', rfl, rfl, rfl⟩
    · exact .inl ⟨'t', rfl, rfl, rfl⟩
    · exact .inl ⟨'b', rfl, rfl, rfl⟩
    · exact .inl ⟨'f', rfl, rfl, rfl⟩
    · rename_i hquote hbackslash _ _ _ _ _
      split
      · rename_i hcontrol
        have hdigit : ∀ n < 16, Json.hexDigit n ≠ '\n' := by decide
        exact .inr (.inl ⟨_, _, rfl, hdigit _ (by omega), hdigit _ (by omega),
          Json.hex4?_control c.toNat hcontrol⟩)
      · exact .inr (.inr ⟨rfl, by omega, hquote, hbackslash⟩)

/-- An escape in a quoted scalar is read in one step. -/
theorem quotedWord?_backslash {d e : Char} {after : Cursor} (hbreak : isBreak d = false)
    (hread : readEscape? ⟨d :: rest, i + 1, l, k + 1⟩ = some (e, after)) :
    quotedWord? false (fuel + 1) acc ⟨'\\' :: d :: rest, i, l, k⟩ =
      quotedWord? false fuel (e :: acc) after := by
  have hpeek : (⟨'\\' :: d :: rest, i, l, k⟩ : Cursor).peek 1 = d := rfl
  rw [quotedWord?, Cursor.skip_cons (by decide), hpeek, hbreak, hread]
  rfl

/-- A character between quotation marks is read in one step, if it is no blank. -/
theorem quotedWord?_escapeChar (hblank : c ≠ ' ') :
    quotedWord? false (fuel + 1) acc ⟨escapeChar c ++ rest, i, l, k⟩ =
      quotedWord? false fuel (c :: acc)
        ⟨rest, i + (escapeChar c).length, l, k + (escapeChar c).length⟩ := by
  rcases escapeChar_cases c with ⟨e, heq, he, hbreak⟩ | ⟨a, b, heq, ha, hb, hdigits⟩ |
    ⟨heq, hprints, hquote, hbackslash⟩
  · have hline : e ≠ '\n' := by
      rintro rfl
      cases hbreak
    have hread : readEscape? ⟨e :: rest, i + 1, l, k + 1⟩ =
        some (c, ⟨rest, i + 2, l, k + 2⟩) := by
      have hhead : (⟨e :: rest, i + 1, l, k + 1⟩ : Cursor).head = e := rfl
      rw [readEscape?, hhead, he, Cursor.skip_cons hline]
      rfl
    rw [heq]
    exact quotedWord?_backslash hbreak hread
  · rw [heq]
    have hread : readEscape? ⟨'u' :: (['0', '0', a, b] ++ rest), i + 1, l, k + 1⟩ =
        some (c, ⟨rest, i + 6, l, k + 6⟩) := by
      have hhead : (⟨'u' :: (['0', '0', a, b] ++ rest), i + 1, l, k + 1⟩ : Cursor).head = 'u' := rfl
      have hskip : Cursor.skipN ⟨['0', '0', a, b] ++ rest, i + 1 + 1, l, k + 1 + 1⟩ 4 =
          ⟨rest, i + 6, l, k + 6⟩ :=
        Cursor.skipN_append (s := ['0', '0', a, b]) (by simp [ha.symm, hb.symm])
      have htake : (['0', '0', a, b] ++ rest).take 4 = ['0', '0', a, b] := rfl
      have hvalid : c.toNat.isValidChar := c.valid
      have hnone : escape? 'u' = none := rfl
      have hfour : escapeDigits? 'u' = some 4 := rfl
      simp only [readEscape?, hhead, hnone, hfour, Cursor.skip_cons (show 'u' ≠ '\n' by decide),
        hskip, htake, hdigits, Char.ofNat_toNat]
      exact if_pos hvalid
    exact quotedWord?_backslash rfl hread
  · have hline : c ≠ '\n' := by
      rintro rfl
      exact absurd hprints (by decide)
    obtain ⟨hbreak, hgoes⟩ := goesOn_of_prints hprints
    rw [heq, List.singleton_append, quotedWord?, Cursor.skip_cons hline]
    simp [Cursor.head, isBlankOrEnd, hbreak, hgoes hblank, hquote, hbackslash]

/-- A word of a quoted scalar is read up to a blank or the quotation mark. -/
theorem quotedWord?_append (hw : ' ' ∉ w)
    (stops : rest.head? = some ' ' ∨ rest.head? = some '"') (hfuel : w.length < fuel) :
    quotedWord? false fuel acc ⟨w.flatMap escapeChar ++ rest, i, l, k⟩ =
      some (w.reverse ++ acc, false, ⟨rest, i + (w.flatMap escapeChar).length, l,
        k + (w.flatMap escapeChar).length⟩) := by
  induction w generalizing fuel acc i k with
  | nil =>
    obtain ⟨fuel, rfl⟩ := Nat.exists_eq_add_one_of_ne_zero (Nat.ne_of_gt hfuel)
    obtain ⟨c, rest, rfl⟩ : ∃ c rest', rest = c :: rest' := by
      cases rest with
      | nil => simp at stops
      | cons c rest => exact ⟨c, rest, rfl⟩
    rw [List.head?_cons, Option.some.injEq, Option.some.injEq] at stops
    rcases stops with rfl | rfl <;> rfl
  | cons c w ih =>
    obtain ⟨fuel, rfl⟩ := Nat.exists_eq_add_one_of_ne_zero (Nat.ne_of_gt (Nat.zero_lt_of_lt hfuel))
    rw [List.mem_cons, not_or] at hw
    rw [List.flatMap_cons, List.append_assoc, quotedWord?_escapeChar (Ne.symm hw.1),
      ih hw.2 (by simpa using hfuel)]
    simp [Nat.add_assoc]

theorem flatMap_escapeChar_blanks (n : Nat) :
    (List.replicate n ' ').flatMap escapeChar = List.replicate n ' ' := by
  induction n with
  | zero => rfl
  | succ n ih =>
    rw [List.replicate_succ, List.flatMap_cons, ih]
    rfl

/-- What is written between quotation marks starts with a character that is printed. -/
theorem exists_head_escaped {d : Char} (s more : List Char) (hd : 0x20 ≤ d.toNat) : ∃ e after,
    s.flatMap escapeChar ++ d :: more = e :: after ∧ 0x20 ≤ e.toNat ∧
      (s.head? ≠ some ' ' → d ≠ ' ' → e ≠ ' ') := by
  cases s with
  | nil => exact ⟨d, more, rfl, hd, fun _ h => h⟩
  | cons c s =>
    rw [List.flatMap_cons, List.head?_cons]
    rcases escapeChar_cases c with ⟨e, heq, -, -⟩ | ⟨a, b, heq, -, -, -⟩ | ⟨heq, hprints, -, -⟩
    · exact ⟨'\\', _, by rw [heq]; rfl, by decide, fun _ _ => by decide⟩
    · exact ⟨'\\', _, by rw [heq]; rfl, by decide, fun _ _ => by decide⟩
    · exact ⟨c, _, by rw [heq]; rfl, hprints, fun h _ hc => h (by rw [hc])⟩

theorem length_le_quoted (s : List Char) : s.length ≤ (s.flatMap escapeChar).length := by
  refine Json.length_le_flatMap (fun c => ?_) s
  rcases escapeChar_cases c with ⟨e, heq, -, -⟩ | ⟨a, b, heq, -, -, -⟩ | ⟨heq, -, -, -⟩ <;>
    simp [heq]

/-- A word of a quoted scalar is read, and the next word, if it does not stand at the start of a
line. -/
theorem quotedFrom?_eq {d : Char} (hw : ' ' ∉ w) (hk : 0 < k) (hd : d = ' ' ∨ d = '"') :
    quotedFrom? false (fuel + 1) acc ⟨w.flatMap escapeChar ++ d :: rest, i, l, k⟩ =
      let c : Cursor := ⟨d :: rest, i + (w.flatMap escapeChar).length, l,
        k + (w.flatMap escapeChar).length⟩
      if d = '"' then some (String.ofList (acc.reverse ++ w), c.skip)
      else
        let (f, c) := readFolding (rest.length + 2) .none c
        quotedFrom? false fuel (f.text.reverse ++ (w.reverse ++ acc)) c := by
  have hprints : 0x20 ≤ d.toNat := by rcases hd with rfl | rfl <;> decide
  obtain ⟨e, after, he, heprints, -⟩ := exists_head_escaped w rest hprints
  have hend : isEnd (⟨w.flatMap escapeChar ++ d :: rest, i, l, k⟩ : Cursor).head = false := by
    have hbreak := (goesOn_of_prints heprints).1
    rw [isBreakOrEnd, Bool.or_eq_false_iff] at hbreak
    rw [he]
    exact hbreak.2
  have hlength : w.length < (w.flatMap escapeChar ++ d :: rest).length + 1 := by
    have := length_le_quoted w
    rw [List.length_append]
    omega
  rw [quotedFrom?, Cursor.atMark_of_pos hk, Cursor.atMark_of_pos hk, hend,
    quotedWord?_append hw (by simpa using hd) hlength]
  rcases hd with rfl | rfl
  · rfl
  · simp [Cursor.head]

/-- **A text in quotation marks is read up to the last of them.**  The induction is on its words. -/
theorem quotedFrom?_escaped (hk : 0 < k) (hfuel : s.length < fuel) :
    quotedFrom? false fuel acc ⟨s.flatMap escapeChar ++ '"' :: tail, i, l, k⟩ =
      some (String.ofList (acc.reverse ++ s), ⟨tail, i + (s.flatMap escapeChar).length + 1, l,
        k + (s.flatMap escapeChar).length + 1⟩) := by
  induction s using blanks_induction generalizing fuel acc i k with
  | word w hw =>
    obtain ⟨fuel, rfl⟩ : ∃ n, fuel = n + 1 := ⟨fuel - 1, by omega⟩
    rw [quotedFrom?_eq hw hk (.inr rfl), if_pos rfl, Cursor.skip_cons (by decide)]
  | more w n rest hw hrest ih =>
    obtain ⟨fuel, rfl⟩ : ∃ n, fuel = n + 1 := ⟨fuel - 1, by omega⟩
    have hgoes : GoesOn (rest.flatMap escapeChar ++ '"' :: tail) := by
      obtain ⟨e, after, he, hprints, hblank⟩ := exists_head_escaped rest tail
        (show 0x20 ≤ '"'.toNat by decide)
      obtain ⟨hbreak, hgoes⟩ := goesOn_of_prints hprints
      rw [isBreakOrEnd, Bool.or_eq_false_iff] at hbreak
      rw [he]
      rintro d ⟨⟩
      exact ⟨hgoes (hblank hrest (by decide)), hbreak.1⟩
    have hblanks := readFolding_blanks (f := .none) (l := l)
      (i := i + (w.flatMap escapeChar).length) (k := k + (w.flatMap escapeChar).length) hgoes
      (show n + 1 < (List.replicate n ' ' ++ (rest.flatMap escapeChar ++ '"' :: tail)).length + 2 by
        rw [length_blanks]; omega)
    rw [List.replicate_succ, List.cons_append] at hblanks
    rw [List.flatMap_append, List.flatMap_append, flatMap_escapeChar_blanks, List.append_assoc,
      List.append_assoc, List.replicate_succ, List.cons_append,
      quotedFrom?_eq hw hk (.inl rfl), if_neg (by decide)]
    dsimp only
    rw [hblanks]
    dsimp only
    simp only [List.length_append, List.length_replicate] at hfuel
    rw [ih (by omega) (by omega)]
    simp [Folding.addBlanks, Folding.none, Folding.text, List.replicate_succ, Nat.add_assoc,
      Nat.add_comm 1]

/-- **A text in quotation marks is read as a quoted scalar.** -/
theorem quoted?_quote (s : String) :
    quoted? false ⟨(quote s).toList ++ tail, i, l, k⟩ =
      some (s, ⟨tail, i + (quote s).toList.length, l, k + (quote s).toList.length⟩) := by
  have hquote : (quote s).toList = '"' :: (s.toList.flatMap escapeChar ++ ['"']) := by
    rw [quote, String.toList_ofList]
    rfl
  have hlength := length_le_quoted s.toList
  rw [hquote, quoted?, List.cons_append, Cursor.skip_cons (by decide), List.append_assoc,
    List.singleton_append, quotedFrom?_escaped (by omega)
      (by rw [List.length_cons, List.length_append]; omega)]
  simp [Nat.add_assoc, Nat.add_comm 1]

end SuiteRunner.Yaml
