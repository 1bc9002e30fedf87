import Mathlib.Data.Char
import Mathlib.Data.Nat.Notation
import SuiteRunner.Json.Printer
import SuiteRunner.Json.Reader

/-!
# Printed documents are read back

The reader of JSON undoes the printer: whatever document is printed, it is read again as it was, as
long as its whole numbers have 64 bits.  The printer writes documents with different white space, to
which the reader pays no attention.

* `Value.node`, a document as it is read, and `Value.Fits`, the documents whose numbers are kept;
* `text?_escaped` — a quoted text is read character by character;
* `number?_toString` — the digits of a number are read up to what follows them;
* `Spacing`, the white space of a document, and `spaced`, a document with it; `toList_prettyAt` and
  `toList_compact`, what the printer writes;
* `readsValues_succ`, `readsItems_succ` and `readsMembers_succ`, the steps of the reader, and
  `reads`, the induction over them; the length of a printed text is fuel enough;
* **`read?_spaced`** — a document is read back whatever its white space is — and from it
  **`read?_pretty`** and **`read?_compact`**.
-/

namespace SuiteRunner

/-! ### Documents as they are read -/

namespace Value

mutual

/-- The document as it is read. -/
def node : Value → Node
  | .null => .null
  | .bool b => .bool b
  | .int n => .int n
  | .text s => .text s
  | .list items => .list (nodes items)
  | .object members => .map (entries members)

/-- The items of a list as they are read. -/
def nodes : List Value → List Node
  | [] => []
  | v :: vs => v.node :: nodes vs

/-- The members of an object as they are read. -/
def entries : List (String × Value) → List (Node × Node)
  | [] => []
  | (name, v) :: ms => (.text name, v.node) :: entries ms

end

theorem nodes_eq_map (vs : List Value) : nodes vs = vs.map node := by
  induction vs with
  | nil => rfl
  | cons v vs ih => rw [nodes, ih, List.map_cons]

mutual

/-- Holds when all whole numbers of the document have 64 bits. -/
def Fits : Value → Prop
  | .int n => Node.fits64 n = true
  | .list items => FitAll items
  | .object members => FitMembers members
  | .null | .bool _ | .text _ => True

/-- Holds when all whole numbers of the documents have 64 bits. -/
def FitAll : List Value → Prop
  | [] => True
  | v :: vs => v.Fits ∧ FitAll vs

/-- Holds when all whole numbers of the members have 64 bits. -/
def FitMembers : List (String × Value) → Prop
  | [] => True
  | (_, v) :: ms => v.Fits ∧ FitMembers ms

end

theorem fitAll_iff {vs : List Value} : FitAll vs ↔ ∀ v ∈ vs, v.Fits := by
  induction vs with
  | nil => simp [FitAll]
  | cons v vs ih => simp [FitAll, ih]

theorem fitMembers_iff {ms : List (String × Value)} : FitMembers ms ↔ ∀ m ∈ ms, m.2.Fits := by
  induction ms with
  | nil => simp [FitMembers]
  | cons m ms ih => simp [FitMembers, ih]

end Value

namespace Json

open Unicode

variable {s rest acc : List Char} {level fuel : Nat} {c : Char}

/-! ### White space -/

/-- Holds for white space between the signs. -/
def IsSpace (c : Char) : Prop := c = ' ' ∨ c = '\n' ∨ c = '\r' ∨ c = '\t'

instance (c : Char) : Decidable (IsSpace c) := inferInstanceAs (Decidable (_ ∨ _))

theorem skipSpace_cons (h : ¬ IsSpace c) (s : List Char) : skipSpace (c :: s) = c :: s := by
  rw [skipSpace, List.dropWhile_cons_of_neg]
  simpa [IsSpace, or_assoc] using h

theorem skipSpace_append {space : List Char} (h : ∀ c ∈ space, IsSpace c) (s : List Char) :
    skipSpace (space ++ s) = skipSpace s := by
  rw [skipSpace, skipSpace, List.dropWhile_append_of_pos]
  intro c hc
  simpa [IsSpace, or_assoc] using h c hc

theorem skipSpace_skipSpace (s : List Char) : skipSpace (skipSpace s) = skipSpace s := by
  induction s with
  | nil => rfl
  | cons c s ih =>
    by_cases h : IsSpace c
    · have hskip : skipSpace (c :: s) = skipSpace s := by
        rw [skipSpace, List.dropWhile_cons_of_pos (by simpa [IsSpace, or_assoc] using h), skipSpace]
      rw [hskip, ih]
    · rw [skipSpace_cons h, skipSpace_cons h]

/-- White space in front of a value does not count. -/
theorem value?_skipSpace (fuel : Nat) (s : List Char) :
    value? fuel (skipSpace s) = value? fuel s := by
  cases fuel with
  | zero => rfl
  | succ fuel => rw [value?, value?, skipSpace_skipSpace]

theorem items?_skipSpace (fuel : Nat) (s : List Char) :
    items? fuel (skipSpace s) = items? fuel s := by
  cases fuel with
  | zero => rfl
  | succ fuel => rw [items?, items?, value?_skipSpace]

theorem members?_skipSpace (fuel : Nat) (s : List Char) :
    members? fuel (skipSpace s) = members? fuel s := by
  cases fuel with
  | zero => rfl
  | succ fuel => rw [members?, members?, skipSpace_skipSpace]

/-! ### Texts -/

theorem hex4?_control : ∀ n < 32,
    Numeral.digits? 16 ['0', '0', hexDigit (n / 16), hexDigit (n % 16)] = some n := by
  decide

theorem text?_plain (hquote : c ≠ '"') (hbackslash : c ≠ '\\') (hprints : ¬ c.toNat < 0x20) :
    text? acc (fuel + 1) (c :: rest) = text? (c :: acc) fuel rest := by
  simp [text?, hbackslash, hprints]

/-- A character in a text takes one step to be read, however it is written. -/
theorem text?_escapeChar (acc : List Char) (fuel : Nat) (c : Char) (rest : List Char) :
    text? acc (fuel + 1) (escapeChar c ++ rest) = text? (c :: acc) fuel rest := by
  rw [escapeChar.eq_def]
  split
  · rfl
  · rfl
  · rfl
  · rfl
  · rfl
  · rfl
  · rfl
  · rename_i hquote hbackslash _ _ _ _ _
    split
    · rename_i hcontrol
      have hescape : ∀ a b, Numeral.digits? 16 ['0', '0', a, b] = some c.toNat →
          unicodeEscape? ('0' :: '0' :: a :: b :: rest) = some (c, rest) := by
        intro a b h
        have hlow : c.toNat < 0xD800 := by omega
        simp [unicodeEscape?, hex4?, h, hlow]
      have hhex := hescape _ _ (hex4?_control c.toNat hcontrol)
      show ((unicodeEscape? ('0' :: '0' :: _ :: _ :: rest)).bind
        fun p => text? (p.1 :: acc) fuel p.2) = _
      rw [hhex]
      rfl
    · exact text?_plain hquote hbackslash ‹_›

/-- **A text is read up to its closing quotation mark.** -/
theorem text?_escaped (s rest : List Char) (h : s.length < fuel) :
    text? acc fuel (s.flatMap escapeChar ++ '"' :: rest) =
      some (String.ofList (acc.reverse ++ s), rest) := by
  induction s generalizing acc fuel with
  | nil =>
    cases fuel with
    | zero => cases h
    | succ fuel => simp [text?]
  | cons c s ih =>
    cases fuel with
    | zero => cases h
    | succ fuel =>
      rw [List.flatMap_cons, List.append_assoc, text?_escapeChar, ih (by simpa using h)]
      simp

/-- A text is not longer than what is written for its characters. -/
theorem length_le_flatMap {write : Char → List Char} (some_char : ∀ c, 0 < (write c).length)
    (s : List Char) : s.length ≤ (s.flatMap write).length := by
  induction s with
  | nil => exact Nat.le_refl _
  | cons c s ih =>
    have hpos := some_char c
    rw [List.flatMap_cons, List.length_append, List.length_cons]
    omega

theorem length_le_escaped (s : List Char) : s.length ≤ (s.flatMap escapeChar).length := by
  refine length_le_flatMap (fun c => ?_) s
  rw [escapeChar.eq_def]
  split <;> try simp
  split <;> simp

/-! ### Numbers -/

/-- What may follow a number: nothing that goes on with it. -/
def EndsNumber (rest : List Char) : Prop :=
  ∀ c ∈ rest.head?, isAsciiDigit c = false ∧ c ≠ '.' ∧ c ≠ 'e' ∧ c ≠ 'E'

theorem isAsciiDigit_iff : isAsciiDigit c = true ↔ c.isDigit = true := by
  simp [isAsciiDigit, Char.isDigit, Char.le_def]

theorem isAsciiDigit_toDigits {n : Nat} : ∀ c ∈ Nat.toDigits 10 n, isAsciiDigit c = true :=
  fun _ hc => isAsciiDigit_iff.2 (Nat.isDigit_of_mem_toDigits (by omega) (by omega) hc)

theorem digit?_digitChar : ∀ n < 10, Numeral.digit? 10 n.digitChar = some n := by
  decide

/-- **The digits of a number are read.** -/
theorem digits?_toDigits (n : Nat) : Numeral.digits? 10 (Nat.toDigits 10 n) = some n := by
  have hfold : (Nat.toDigits 10 n).foldl (fun acc c => acc.bind fun v =>
      (Numeral.digit? 10 c).map (v * 10 + ·)) (some 0) = some n := by
    induction n using Nat.strongRecOn with
    | _ n ih =>
      by_cases hn : n < 10
      · rw [Nat.toDigits_of_lt_base hn]
        simp [digit?_digitChar n hn]
      · rw [Nat.toDigits_of_base_le (by omega) (by omega), List.foldl_append, ih _ (by omega)]
        simp only [List.foldl_cons, List.foldl_nil, Option.bind_some,
          digit?_digitChar (n % 10) (by omega), Option.map_some, Option.some.injEq]
        omega
  rw [Numeral.digits?, if_neg (by simp), hfold]

/-- Only zero has a zero in front. -/
theorem eq_zero_of_head?_toDigits {n : Nat} (h : (Nat.toDigits 10 n).head? = some '0') : n = 0 := by
  induction n using Nat.strongRecOn with
  | _ n ih =>
    by_cases hn : n < 10
    · rw [Nat.toDigits_of_lt_base hn] at h
      simpa using h
    · obtain ⟨d, ds, hds⟩ := List.exists_cons_of_ne_nil
        (Nat.toDigits_ne_nil (n := n / 10) (b := 10))
      rw [Nat.toDigits_of_base_le (by omega) (by omega), hds, List.cons_append,
        List.head?_cons] at h
      have hzero := ih (n / 10) (by omega) (by rw [hds, List.head?_cons, h])
      omega

/-- The digits of a number are taken from the front of a text, and nothing after them. -/
theorem takeDigits_append {ds : List Char} (hds : ∀ c ∈ ds, isAsciiDigit c = true)
    (ends : EndsNumber rest) : takeDigits (ds ++ rest) = (ds, rest) := by
  rw [takeDigits, List.takeWhile_append_of_pos hds, List.dropWhile_append_of_pos hds]
  cases rest with
  | nil => simp
  | cons c rest =>
    have hc := (ends c rfl).1
    simp [hc]

/-- **A number is read up to what ends it.** -/
theorem number?_toString {n : Int} (fits : Node.fits64 n = true) (ends : EndsNumber rest) :
    number? ((toString n).toList ++ rest) = some (.int n, rest) := by
  have hfraction : fraction? rest = some (false, rest) := by
    cases rest with
    | nil => rfl
    | cons c rest => simp [fraction?, (ends c rfl).2.1]
  have hexponent : exponent? rest = some (false, rest) := by
    cases rest with
    | nil => rfl
    | cons c rest => simp [exponent?, (ends c rfl).2.2.1, (ends c rfl).2.2.2]
  have htake : ∀ m : Nat, takeDigits (Nat.toDigits 10 m ++ rest) = (Nat.toDigits 10 m, rest) :=
    fun m => takeDigits_append isAsciiDigit_toDigits ends
  have hzeros : ∀ m : Nat, (decide ((Nat.toDigits 10 m).head? = some '0') &&
      decide (1 < (Nat.toDigits 10 m).length)) = false := by
    intro m
    by_cases hhead : (Nat.toDigits 10 m).head? = some '0'
    · rw [eq_zero_of_head?_toDigits hhead]
      decide
    · simp [hhead]
  simp only [Node.fits64, Bool.and_eq_true, decide_eq_true_eq] at fits
  rw [Int.toString_eq_repr, Int.repr_eq_if]
  split
  · rename_i hn
    rw [Nat.toList_repr]
    have hminus : ∀ rest', Nat.toDigits 10 n.toNat ++ rest = '-' :: rest' → False := by
      intro rest' h
      obtain ⟨d, ds, hds⟩ := List.exists_cons_of_ne_nil
        (Nat.toDigits_ne_nil (n := n.toNat) (b := 10))
      rw [hds, List.cons_append, List.cons.injEq] at h
      have hdigit := isAsciiDigit_toDigits d (hds ▸ List.mem_cons_self)
      rw [h.1] at hdigit
      cases hdigit
    have hmax : n.toNat ≤ Numeral.max64 := by
      rw [Numeral.max64]
      omega
    rw [number?, htake]
    · simp [digits?_toDigits, hzeros, hfraction, hexponent, hmax]
      omega
    · exact hminus
  · rename_i hn
    have hnegative : ("-" ++ (-n).toNat.repr).toList ++ rest =
        '-' :: (Nat.toDigits 10 (-n).toNat ++ rest) := by simp
    have hmin : (-n).toNat ≠ 0 ∧ ¬ 9223372036854775808 < (-n).toNat := by omega
    rw [hnegative, number?, htake]
    simp [digits?_toDigits, hzeros, hfraction, hexponent, hmin.2, hn]
    omega

/-- Holds for what a number may start with. -/
def StartsNumber (c : Char) : Prop := isAsciiDigit c = true ∨ c = '-'

theorem StartsNumber.ne {d : Char} (h : StartsNumber c) (hd : ¬ StartsNumber d) : c ≠ d :=
  fun hcd => hd (hcd ▸ h)

instance (c : Char) : Decidable (StartsNumber c) := inferInstanceAs (Decidable (_ ∨ _))

theorem toString_starts (n : Int) : ∃ c s, (toString n).toList = c :: s ∧ StartsNumber c := by
  rw [Int.toString_eq_repr, Int.repr_eq_if]
  split
  · obtain ⟨d, ds, hds⟩ := List.exists_cons_of_ne_nil
      (Nat.toDigits_ne_nil (n := n.toNat) (b := 10))
    have hd := isAsciiDigit_toDigits d (hds ▸ List.mem_cons_self)
    exact ⟨d, ds, by rw [Nat.toList_repr, hds], .inl hd⟩
  · refine ⟨'-', Nat.toDigits 10 (-n).toNat, ?_, .inr rfl⟩
    rw [String.toList_append, Nat.toList_repr]
    rfl

/-! ### Documents -/

/-- What starts like a number is read as one. -/
theorem value?_number (h : StartsNumber c) (fuel : Nat) (s : List Char) :
    value? (fuel + 1) (c :: s) = number? (c :: s) := by
  have hspace : ¬ IsSpace c := by
    rintro (rfl | rfl | rfl | rfl) <;> exact absurd h (by decide)
  rw [value?.eq_def]
  simp only [skipSpace_cons hspace]
  split
  · rename_i hs
    exact absurd (List.cons.inj hs).1 (h.ne (by decide))
  · rename_i hs
    exact absurd (List.cons.inj hs).1 (h.ne (by decide))
  · rename_i hs
    exact absurd (List.cons.inj hs).1 (h.ne (by decide))
  · rename_i hs
    exact absurd (List.cons.inj hs).1 (h.ne (by decide))
  · rename_i hs
    exact absurd (List.cons.inj hs).1 (h.ne (by decide))
  · rename_i hs
    exact absurd (List.cons.inj hs).1 (h.ne (by decide))
  · rfl

/-- The white space of a document: in front of the items, the members and the closing sign of a
level, and after colons. -/
structure Spacing where
  line : Nat → List Char
  gap : List Char
  line_space : ∀ level, ∀ c ∈ line level, IsSpace c
  gap_space : ∀ c ∈ gap, IsSpace c

mutual

/-- A document with white space, at `level` outside of it. -/
def spaced (w : Spacing) (level : Nat) : Value → List Char
  | .null => "null".toList
  | .bool b => if b then "true".toList else "false".toList
  | .int n => (toString n).toList
  | .text s => '"' :: (s.toList.flatMap escapeChar ++ ['"'])
  | .list [] => ['[', ']']
  | .list (v :: vs) => '[' :: (spacedItems w (level + 1) (v :: vs) ++ (w.line level ++ [']']))
  | .object [] => ['\x7b', '\x7d']
  | .object (m :: ms) =>
    '\x7b' :: (spacedMembers w (level + 1) (m :: ms) ++ (w.line level ++ ['\x7d']))

/-- Items with white space, between commas. -/
def spacedItems (w : Spacing) (level : Nat) : List Value → List Char
  | [] => []
  | [v] => w.line level ++ spaced w level v
  | v :: vs => w.line level ++ (spaced w level v ++ ',' :: spacedItems w level vs)

/-- Members with white space, between commas. -/
def spacedMembers (w : Spacing) (level : Nat) : List (String × Value) → List Char
  | [] => []
  | [(name, v)] => w.line level ++ ('"' :: (name.toList.flatMap escapeChar ++
      '"' :: ':' :: (w.gap ++ spaced w level v)))
  | (name, v) :: ms => w.line level ++ ('"' :: (name.toList.flatMap escapeChar ++
      '"' :: ':' :: (w.gap ++ (spaced w level v ++ ',' :: spacedMembers w level ms))))

end

section Spaced

variable {w : Spacing}

theorem Spacing.skipSpace_line (w : Spacing) (level : Nat) (s : List Char) :
    skipSpace (w.line level ++ s) = skipSpace s := skipSpace_append (w.line_space level) s

theorem Spacing.value?_line (w : Spacing) (level fuel : Nat) (s : List Char) :
    value? fuel (w.line level ++ s) = value? fuel s := by
  rw [← value?_skipSpace, w.skipSpace_line, value?_skipSpace]

theorem Spacing.value?_gap (w : Spacing) (fuel : Nat) (s : List Char) :
    value? fuel (w.gap ++ s) = value? fuel s := by
  rw [← value?_skipSpace, skipSpace_append w.gap_space, value?_skipSpace]

/-- White space ends a number, and so does a sign that closes something. -/
theorem Spacing.endsNumber_line (w : Spacing) (level : Nat) (h : EndsNumber s) :
    EndsNumber (w.line level ++ s) := by
  intro c hc
  cases hline : w.line level with
  | nil =>
    rw [hline] at hc
    exact h c hc
  | cons d space =>
    rw [hline] at hc
    cases hc
    have hspace := w.line_space level c (hline ▸ List.mem_cons_self)
    rcases hspace with rfl | rfl | rfl | rfl <;> decide

theorem endsNumber_cons (h : isAsciiDigit c = false ∧ c ≠ '.' ∧ c ≠ 'e' ∧ c ≠ 'E') (s : List Char) :
    EndsNumber (c :: s) := by
  rintro d ⟨⟩
  exact h

/-- A document starts with a sign that is no white space and closes no list. -/
theorem spaced_starts (v : Value) (level : Nat) : ∃ c s,
    spaced w level v = c :: s ∧ ¬ IsSpace c ∧ c ≠ ']' := by
  cases v with
  | null => exact ⟨'n', _, by rw [spaced]; rfl, by decide, by decide⟩
  | bool b =>
    cases b with
    | true => exact ⟨'t', _, by rw [spaced]; rfl, by decide, by decide⟩
    | false => exact ⟨'f', _, by rw [spaced]; rfl, by decide, by decide⟩
  | int n =>
    obtain ⟨c, s, hs, hc⟩ := toString_starts n
    refine ⟨c, s, by rw [spaced, hs], ?_, hc.ne (by decide)⟩
    rintro (rfl | rfl | rfl | rfl) <;> exact absurd hc (by decide)
  | text s => exact ⟨'"', _, by rw [spaced], by decide, by decide⟩
  | list items =>
    cases items with
    | nil => exact ⟨'[', _, by rw [spaced], by decide, by decide⟩
    | cons v vs => exact ⟨'[', _, by rw [spaced], by decide, by decide⟩
  | object members =>
    cases members with
    | nil => exact ⟨'\x7b', _, by rw [spaced], by decide, by decide⟩
    | cons m ms => exact ⟨'\x7b', _, by rw [spaced], by decide, by decide⟩

end Spaced

/-- What is in brackets is read as a list, if there is an item. -/
theorem value?_list (h : (skipSpace s).head? ≠ some ']') :
    value? (fuel + 1) ('[' :: s) = (items? fuel s).map fun (vs, rest) => (.list vs, rest) := by
  have hstart : skipSpace ('[' :: s) = '[' :: s := rfl
  rw [← items?_skipSpace]
  simp only [value?, hstart]
  split
  · rename_i hs
    rw [hs] at h
    exact absurd rfl h
  · rfl

/-- What is in braces is read as an object, if there is a member. -/
theorem value?_object (h : (skipSpace s).head? ≠ some '\x7d') :
    value? (fuel + 1) ('\x7b' :: s) = (members? fuel s).map fun (ms, rest) => (.map ms, rest) := by
  have hstart : skipSpace ('\x7b' :: s) = '\x7b' :: s := rfl
  rw [← members?_skipSpace]
  simp only [value?, hstart]
  split
  · rename_i hs
    rw [hs] at h
    exact absurd rfl h
  · rfl

/-- An item is read, and then the list is closed or goes on. -/
theorem items?_last {n : Node} (h : value? fuel s = some (n, rest)) {more : List Char}
    (hrest : skipSpace rest = ']' :: more) : items? (fuel + 1) s = some ([n], more) := by
  rw [items?, h]
  simp [hrest]

theorem items?_more {n : Node} (h : value? fuel s = some (n, rest)) {more : List Char}
    (hrest : skipSpace rest = ',' :: more) :
    items? (fuel + 1) s = (items? fuel more).map fun (vs, rest) => (n :: vs, rest) := by
  rw [items?, h]
  simp only [Option.bind_eq_bind, Option.bind_some, hrest]
  cases items? fuel more <;> rfl

/-- A member is read, and then the object is closed or goes on. -/
theorem members?_last {name : String} {after more : List Char} {n : Node}
    (hs : skipSpace s = '"' :: (name.toList.flatMap escapeChar ++ '"' :: ':' :: after))
    (hname : name.toList.length < fuel) (hafter : value? fuel after = some (n, rest))
    (hrest : skipSpace rest = '\x7d' :: more) :
    members? (fuel + 1) s = some ([(.text name, n)], more) := by
  rw [members?, hs]
  simp [text?_escaped name.toList (':' :: after) hname,
    skipSpace_cons (show ¬ IsSpace ':' by decide), hafter, hrest]

theorem members?_more {name : String} {after more : List Char} {n : Node}
    (hs : skipSpace s = '"' :: (name.toList.flatMap escapeChar ++ '"' :: ':' :: after))
    (hname : name.toList.length < fuel) (hafter : value? fuel after = some (n, rest))
    (hrest : skipSpace rest = ',' :: more) :
    members? (fuel + 1) s =
      (members? fuel more).map fun (ms, rest) => ((.text name, n) :: ms, rest) := by
  rw [members?, hs]
  simp only [text?_escaped name.toList (':' :: after) hname,
    skipSpace_cons (show ¬ IsSpace ':' by decide), hafter, hrest, Option.bind_eq_bind,
    Option.bind_some, List.reverse_nil, List.nil_append, String.ofList_toList]
  cases members? fuel more <;> rfl

section Reads

variable {w : Spacing}

/-- Documents are read with the fuel, if it is as much as they are long. -/
def ReadsValues (w : Spacing) (fuel : Nat) : Prop :=
  ∀ (v : Value) (level : Nat) (rest : List Char), v.Fits → (spaced w level v).length ≤ fuel →
    EndsNumber rest → value? fuel (spaced w level v ++ rest) = some (v.node, rest)

/-- Items are read up to the closing bracket, if there is more fuel than they are long. -/
def ReadsItems (w : Spacing) (fuel : Nat) : Prop :=
  ∀ (v : Value) (vs : List Value) (level outer : Nat) (rest : List Char),
    Value.FitAll (v :: vs) → (spacedItems w level (v :: vs)).length < fuel →
    items? fuel (spacedItems w level (v :: vs) ++ (w.line outer ++ ']' :: rest)) =
      some (Value.nodes (v :: vs), rest)

/-- Members are read up to the closing brace, if there is more fuel than they are long. -/
def ReadsMembers (w : Spacing) (fuel : Nat) : Prop :=
  ∀ (m : String × Value) (ms : List (String × Value)) (level outer : Nat) (rest : List Char),
    Value.FitMembers (m :: ms) → (spacedMembers w level (m :: ms)).length < fuel →
    members? fuel (spacedMembers w level (m :: ms) ++ (w.line outer ++ '\x7d' :: rest)) =
      some (Value.entries (m :: ms), rest)

theorem readsValues_succ (items : ReadsItems w fuel) (members : ReadsMembers w fuel) :
    ReadsValues w (fuel + 1) := by
  intro v level rest fits hfuel ends
  match v, fits, hfuel with
  | .null, _, _ =>
    rw [spaced]
    rfl
  | .bool true, _, _ =>
    rw [spaced]
    rfl
  | .bool false, _, _ =>
    rw [spaced]
    rfl
  | .int n, fits, _ =>
    obtain ⟨c, s, hs, hc⟩ := toString_starts n
    have hnumber := number?_toString fits ends
    rw [spaced, hs, List.cons_append, value?_number hc, ← List.cons_append, ← hs]
    exact hnumber
  | .text s, _, hfuel =>
    have hlength := length_le_escaped s.toList
    rw [spaced] at hfuel ⊢
    rw [List.length_cons, List.length_append, List.length_singleton] at hfuel
    rw [List.cons_append, List.append_assoc, List.singleton_append]
    show (text? [] fuel (s.toList.flatMap escapeChar ++ '"' :: rest)).map _ = _
    rw [text?_escaped s.toList rest (by omega)]
    simp [Value.node]
  | .list [], _, _ =>
    rw [spaced]
    rfl
  | .list (v :: vs), fits, hfuel =>
    rw [spaced] at hfuel ⊢
    simp only [List.length_cons, List.length_append, List.length_nil] at hfuel
    have hitems := items v vs (level + 1) level rest fits (by omega)
    simp only [List.cons_append, List.append_assoc, List.nil_append]
    rw [value?_list, hitems]
    · rfl
    · obtain ⟨c, s, hs, hspace, hclosed⟩ := spaced_starts (w := w) v (level + 1)
      cases vs <;> simp [spacedItems, w.skipSpace_line, hs, skipSpace_cons hspace, hclosed]
  | .object [], _, _ =>
    rw [spaced]
    rfl
  | .object ((name, v) :: ms), fits, hfuel =>
    rw [spaced] at hfuel ⊢
    simp only [List.length_cons, List.length_append, List.length_nil] at hfuel
    have hmembers := members (name, v) ms (level + 1) level rest fits (by omega)
    simp only [List.cons_append, List.append_assoc, List.nil_append]
    rw [value?_object, hmembers]
    · rfl
    · cases ms <;>
        simp [spacedMembers, w.skipSpace_line, skipSpace_cons (show ¬ IsSpace '"' by decide)]

theorem readsItems_succ (values : ReadsValues w fuel) (items : ReadsItems w fuel) :
    ReadsItems w (fuel + 1) := by
  intro v vs level outer rest fits hfuel
  cases vs with
  | nil =>
    rw [spacedItems] at hfuel ⊢
    rw [List.length_append] at hfuel
    have hvalue := values v level (w.line outer ++ ']' :: rest) fits.1 (by omega)
      (w.endsNumber_line outer (endsNumber_cons (by decide) rest))
    rw [List.append_assoc]
    refine items?_last ((w.value?_line level fuel _).trans hvalue) ?_
    rw [w.skipSpace_line, skipSpace_cons (by decide)]
  | cons v' vs =>
    rw [spacedItems] at hfuel ⊢
    · rw [List.length_append, List.length_append, List.length_cons] at hfuel
      have hvalue := values v level (',' :: (spacedItems w level (v' :: vs) ++
        (w.line outer ++ ']' :: rest))) fits.1 (by omega) (endsNumber_cons (by decide) _)
      have hitems := items v' vs level outer rest fits.2 (by omega)
      rw [List.append_assoc, List.append_assoc, List.cons_append,
        items?_more ((w.value?_line level fuel _).trans hvalue) (skipSpace_cons (by decide) _),
        hitems]
      rfl
    · simp
    · simp

theorem readsMembers_succ (values : ReadsValues w fuel) (members : ReadsMembers w fuel) :
    ReadsMembers w (fuel + 1) := by
  rintro ⟨name, v⟩ ms level outer rest fits hfuel
  have hname := length_le_escaped name.toList
  cases ms with
  | nil =>
    rw [spacedMembers] at hfuel ⊢
    simp only [List.length_append, List.length_cons] at hfuel
    have hvalue := values v level (w.line outer ++ '\x7d' :: rest) fits.1 (by omega)
      (w.endsNumber_line outer (endsNumber_cons (by decide) rest))
    refine members?_last ?_ (show name.toList.length < fuel by omega)
      ((w.value?_gap fuel _).trans hvalue) ?_
    · rw [List.append_assoc, w.skipSpace_line, List.cons_append, skipSpace_cons (by decide)]
      simp
    · rw [w.skipSpace_line, skipSpace_cons (by decide)]
  | cons m ms =>
    rw [spacedMembers] at hfuel ⊢
    · simp only [List.length_append, List.length_cons] at hfuel
      have hmembers := members m ms level outer rest fits.2 (by omega)
      have hvalue := values v level (',' :: (spacedMembers w level (m :: ms) ++
        (w.line outer ++ '\x7d' :: rest))) fits.1 (by omega) (endsNumber_cons (by decide) _)
      rw [members?_more ?_ (show name.toList.length < fuel by omega)
        ((w.value?_gap fuel _).trans hvalue) (skipSpace_cons (by decide) _), hmembers]
      · rfl
      · rw [List.append_assoc, w.skipSpace_line, List.cons_append, skipSpace_cons (by decide)]
        simp
    · simp
    · simp

/-- **The reader undoes the printer at every fuel that is enough.**  The induction is on the fuel,
which every step of the reader takes one from. -/
theorem reads (w : Spacing) (fuel : Nat) :
    ReadsValues w fuel ∧ ReadsItems w fuel ∧ ReadsMembers w fuel := by
  induction fuel with
  | zero =>
    -- No document is without characters.
    refine ⟨fun v level rest _ hfuel _ => ?_,
      fun _ _ _ _ _ _ hfuel => absurd hfuel (Nat.not_lt_zero _),
      fun _ _ _ _ _ _ hfuel => absurd hfuel (Nat.not_lt_zero _)⟩
    obtain ⟨c, s, hs, -⟩ := spaced_starts (w := w) v level
    rw [hs] at hfuel
    cases hfuel
  | succ fuel ih =>
    obtain ⟨values, items, members⟩ := ih
    exact ⟨readsValues_succ items members, readsItems_succ values items,
      readsMembers_succ values members⟩

/-- **A document is read back, whatever its white space is.** -/
theorem read?_spaced (w : Spacing) {v : Value} (fits : v.Fits) (level : Nat) :
    read? (spaced w level v) = some v.node := by
  have hvalue := (reads w (2 * (spaced w level v).length + 2)).1 v level [] fits (by omega)
    (by rintro c ⟨⟩)
  rw [List.append_nil] at hvalue
  rw [read?, hvalue]
  rfl

end Reads

/-! ### What the printer writes -/

/-- Lines and blanks. -/
def Spacing.pretty : Spacing where
  line level := (newLine level).toList
  gap := [' ']
  line_space level c hc := by
    have hline : (newLine level).toList = '\n' :: List.replicate (2 * level) ' ' := by
      simp [newLine]
    rw [hline] at hc
    rcases List.mem_cons.1 hc with rfl | hc
    · decide
    · rw [(List.mem_replicate.1 hc).2]
      decide
  gap_space := by decide

/-- No white space at all. -/
def Spacing.none : Spacing where
  line _ := []
  gap := []
  line_space _ c hc := by cases hc
  gap_space := by simp

theorem toList_quote (s : String) :
    (quote s).toList = '"' :: (s.toList.flatMap escapeChar ++ ['"']) := by
  rw [quote, String.toList_ofList]
  rfl

mutual

theorem toList_prettyAt (level : Nat) : ∀ v : Value,
    (prettyAt level v).toList = spaced .pretty level v
  | .null => by rw [prettyAt, spaced]
  | .bool b => by
    rw [prettyAt, spaced]
    split <;> rfl
  | .int n => by rw [prettyAt, spaced]
  | .text s => by rw [prettyAt, spaced, toList_quote]
  | .list [] => by
    rw [prettyAt, spaced]
    rfl
  | .list (v :: vs) => by
    rw [prettyAt, spaced, ← toList_prettyItems (level + 1) (v :: vs)]
    simp [Spacing.pretty]
  | .object [] => by
    rw [prettyAt, spaced]
    rfl
  | .object (m :: ms) => by
    rw [prettyAt, spaced, ← toList_prettyMembers (level + 1) (m :: ms)]
    simp [Spacing.pretty]

theorem toList_prettyItems (level : Nat) : ∀ vs : List Value,
    (prettyItems level vs).toList = spacedItems .pretty level vs
  | [] => by
    rw [prettyItems, spacedItems]
    rfl
  | [v] => by
    rw [prettyItems, spacedItems, ← toList_prettyAt level v]
    simp [Spacing.pretty]
  | v :: v' :: vs => by
    rw [prettyItems, spacedItems, ← toList_prettyAt level v, ← toList_prettyItems level (v' :: vs)]
    · simp [Spacing.pretty]
    · simp
    · simp

theorem toList_prettyMembers (level : Nat) : ∀ ms : List (String × Value),
    (prettyMembers level ms).toList = spacedMembers .pretty level ms
  | [] => by
    rw [prettyMembers, spacedMembers]
    rfl
  | [(name, v)] => by
    rw [prettyMembers, spacedMembers, ← toList_prettyAt level v]
    simp [Spacing.pretty, toList_quote]
  | (name, v) :: m :: ms => by
    rw [prettyMembers, spacedMembers, ← toList_prettyAt level v,
      ← toList_prettyMembers level (m :: ms)]
    · simp [Spacing.pretty, toList_quote]
    · simp
    · simp

end

mutual

theorem toList_compact (level : Nat) : ∀ v : Value,
    (compact v).toList = spaced .none level v
  | .null => by rw [compact, spaced]
  | .bool b => by
    rw [compact, spaced]
    split <;> rfl
  | .int n => by rw [compact, spaced]
  | .text s => by rw [compact, spaced, toList_quote]
  | .list [] => by
    rw [compact, compactItems, spaced]
    rfl
  | .list (v :: vs) => by
    rw [compact, spaced, ← toList_compactItems (level + 1) (v :: vs)]
    simp [Spacing.none]
  | .object [] => by
    rw [compact, compactMembers, spaced]
    rfl
  | .object (m :: ms) => by
    rw [compact, spaced, ← toList_compactMembers (level + 1) (m :: ms)]
    simp [Spacing.none]

theorem toList_compactItems (level : Nat) : ∀ vs : List Value,
    (compactItems vs).toList = spacedItems .none level vs
  | [] => by
    rw [compactItems, spacedItems]
    rfl
  | [v] => by
    rw [compactItems, spacedItems, ← toList_compact level v]
    simp [Spacing.none]
  | v :: v' :: vs => by
    rw [compactItems, spacedItems, ← toList_compact level v, ← toList_compactItems level (v' :: vs)]
    · simp [Spacing.none]
    · simp
    · simp

theorem toList_compactMembers (level : Nat) : ∀ ms : List (String × Value),
    (compactMembers ms).toList = spacedMembers .none level ms
  | [] => by
    rw [compactMembers, spacedMembers]
    rfl
  | [(name, v)] => by
    rw [compactMembers, spacedMembers, ← toList_compact level v]
    simp [Spacing.none, toList_quote]
  | (name, v) :: m :: ms => by
    rw [compactMembers, spacedMembers, ← toList_compact level v,
      ← toList_compactMembers level (m :: ms)]
    · simp [Spacing.none, toList_quote]
    · simp
    · simp

end

/-- **A document printed on many lines is read back.** -/
theorem read?_pretty {v : Value} (fits : v.Fits) : read? (pretty v).toList = some v.node := by
  rw [pretty, toList_prettyAt, read?_spaced .pretty fits]

/-- **A document printed on one line is read back.** -/
theorem read?_compact {v : Value} (fits : v.Fits) : read? (compact v).toList = some v.node := by
  rw [toList_compact 0, read?_spaced .none fits]

end Json

end SuiteRunner
