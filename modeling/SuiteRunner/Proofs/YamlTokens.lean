import SuiteRunner.Proofs.YamlLayout

/-!
# Printed documents are cut into their tokens

What is printed of a document is read token by token: its lines show by their indentation where
lists and objects start and end.

* `Value.NamesFit`, the documents whose names are short enough to be keys;
* `tokens`, the tokens of a document;
* `written_scalar`, `written_int` and `written_word` — how scalars are printed;
* `CutsNode`, `CutsItems` and `CutsMembers`, what is read of the lines of a document, with one lemma
  for each way to put documents together, and `cutsNode`, the induction over them;
* **`tokens?_print`** — a printed document has the tokens of the document.
-/

namespace SuiteRunner

/-! ### Names of members -/

namespace Value

mutual

/-- Holds when the names of all members are short enough to be read as keys. -/
def NamesFit : Value → Prop
  | .list items => NamesFitAll items
  | .object members => NamesFitMembers members
  | .null | .bool _ | .int _ | .text _ => True

/-- Holds when the names in all documents are short enough. -/
def NamesFitAll : List Value → Prop
  | [] => True
  | v :: vs => v.NamesFit ∧ NamesFitAll vs

/-- Holds when the names of the members, and in them, are short enough. -/
def NamesFitMembers : List (String × Value) → Prop
  | [] => True
  | (name, v) :: ms =>
    (Yaml.scalar name).toList.length ≤ Yaml.Layout.keyLimit ∧ v.NamesFit ∧ NamesFitMembers ms

end

theorem namesFitAll_iff {vs : List Value} : NamesFitAll vs ↔ ∀ v ∈ vs, v.NamesFit := by
  induction vs with
  | nil => simp [NamesFitAll]
  | cons v vs ih => simp [NamesFitAll, ih]

theorem namesFitMembers_iff {ms : List (String × Value)} : NamesFitMembers ms ↔
    ∀ m ∈ ms, (Yaml.scalar m.1).toList.length ≤ Yaml.Layout.keyLimit ∧ m.2.NamesFit := by
  induction ms with
  | nil => simp [NamesFitMembers]
  | cons m ms ih => simp [NamesFitMembers, ih, and_assoc]

end Value

namespace Yaml

open Layout

variable {t t' : Layout} {ts : List Token} {rest tail more : List Char} {c : Char}
  {k n level : Nat} {indent : Int} {outer : List Int} {allowed : Bool} {v : Value}

/-! ### Tokens of documents -/

mutual

/-- The tokens of a document. -/
def tokens : Value → List Token
  | .null => [.scalar true "~"]
  | .bool b => [.scalar true (if b then "true" else "false")]
  | .int n => [.scalar true (toString n)]
  | .text s => [.scalar (!needsQuotes s) s]
  | .list [] => [.flowSequenceStart, .flowSequenceEnd]
  | .list (v :: vs) => .blockSequenceStart :: (itemTokens (v :: vs) ++ [.blockEnd])
  | .object [] => [.flowMappingStart, .flowMappingEnd]
  | .object (m :: ms) => .blockMappingStart :: (memberTokens (m :: ms) ++ [.blockEnd])

/-- The tokens of the items of a list. -/
def itemTokens : List Value → List Token
  | [] => []
  | v :: vs => .blockEntry :: (tokens v ++ itemTokens vs)

/-- The tokens of the members of an object. -/
def memberTokens : List (String × Value) → List Token
  | [] => []
  | (name, v) :: ms =>
    .key :: .scalar (!needsQuotes name) name :: .value :: (tokens v ++ memberTokens ms)

end

/-! ### Printed scalars -/

/-- A text without markup holds only characters of bare texts. -/
theorem isBareChar_of_isMarkup (h : isMarkup c = false) : IsBareChar c := by
  have hne : ∀ d : Char, isMarkup d = true → c ≠ d := by
    rintro d hd rfl
    rw [h] at hd
    cases hd
  exact ⟨hne ':' rfl, hne '#' rfl, hne '\t' rfl, hne '\n' rfl, hne '\r' rfl, hne '\x00' rfl⟩

/-- No sign is taken for a start of a bare text. -/
theorem leadsMarkup_of_sign : ∀ c ∈ signs, leadsMarkup c = true ∨ isMarkup c = true := by
  decide

/-- A text that needs no quotation marks is read as it stands. -/
theorem isBare_of_needsQuotes {s : String} (h : needsQuotes s = false) :
    IsBare s.toList ∧ StartsPlain s.toList := by
  simp only [needsQuotes, Bool.or_eq_false_iff, decide_eq_false_iff_not] at h
  obtain ⟨⟨⟨⟨⟨⟨hempty, hlead⟩, hlast⟩, hmarkup⟩, -⟩, -⟩, -⟩ := h
  rw [List.any_eq_false] at hmarkup
  obtain ⟨c, rest, hc⟩ := List.exists_cons_of_ne_nil (l := s.toList) (by
    rintro hnil
    rw [hnil] at hempty
    cases hempty)
  rw [hc] at hlead
  have hfirst : leadsMarkup c = false := hlead
  have hnoMarkup : ∀ d ∈ s.toList, isMarkup d = false := by simpa using hmarkup
  refine ⟨⟨fun d hd => isBareChar_of_isMarkup (hnoMarkup d hd), by simp [hc], ?_, hlast⟩,
    .inl ⟨c, rest, hc, fun hsign => ?_⟩⟩
  · rw [hc]
    rintro ⟨⟩
    cases hfirst
  · rcases leadsMarkup_of_sign c hsign with hl | hm
    · rw [hfirst] at hl
      cases hl
    · rw [hnoMarkup c (hc ▸ List.mem_cons_self)] at hm
      cases hm

theorem written_scalar (s : String) : WrittenAs (scalar s).toList (!needsQuotes s) s := by
  rw [scalar]
  cases h : needsQuotes s with
  | true => exact .quoted s
  | false =>
    obtain ⟨bare, starts⟩ := isBare_of_needsQuotes h
    exact .bare bare starts

/-- How a whole number is written: its digits, after a dash if it is negative. -/
theorem toList_toString_int (n : Int) :
    (0 ≤ n ∧ (toString n).toList = Nat.toDigits 10 n.toNat) ∨
      (n < 0 ∧ (toString n).toList = '-' :: Nat.toDigits 10 (-n).toNat) := by
  rw [Int.toString_eq_repr, Int.repr_eq_if]
  split
  · exact .inl ⟨‹_›, Nat.toList_repr⟩
  · exact .inr ⟨by omega, by rw [String.toList_append, Nat.toList_repr]; rfl⟩

theorem isBareChar_digit (h : Unicode.isAsciiDigit c = true) :
    IsBareChar c ∧ c ≠ ' ' ∧ c ∉ signs := by
  have hne : ∀ d : Char, Unicode.isAsciiDigit d = false → c ≠ d := by
    rintro d hd rfl
    rw [h] at hd
    cases hd
  have hsigns : ∀ d ∈ signs, Unicode.isAsciiDigit d = false := by decide
  exact ⟨⟨hne ':' rfl, hne '#' rfl, hne '\t' rfl, hne '\n' rfl, hne '\r' rfl, hne '\x00' rfl⟩,
    hne ' ' rfl, fun hc => hne c (hsigns c hc) rfl⟩

/-- A word is read as it stands, if its characters are those of bare texts. -/
theorem IsBare.of_word {w : List Char} (hsome : w ≠ []) (hw : ∀ c ∈ w, IsBareChar c ∧ c ≠ ' ') :
    IsBare w where
  chars c hc := (hw c hc).1
  nonempty := hsome
  first h := (hw ' ' (List.mem_of_mem_head? h)).2 rfl
  last h := (hw ' ' (List.mem_of_getLast? h)).2 rfl

theorem written_int (n : Int) : WrittenAs (toString n).toList true (toString n) := by
  have hdigits : ∀ m, ∀ c ∈ Nat.toDigits 10 m, IsBareChar c ∧ c ≠ ' ' ∧ c ∉ signs :=
    fun m c hc => isBareChar_digit (Json.isAsciiDigit_toDigits c hc)
  rcases toList_toString_int n with ⟨-, hn⟩ | ⟨-, hn⟩
  · obtain ⟨d, ds, hds⟩ := List.exists_cons_of_ne_nil
      (Nat.toDigits_ne_nil (n := n.toNat) (b := 10))
    refine .bare (.of_word (by rw [hn]; exact Nat.toDigits_ne_nil) fun c hc => ?_)
      (.inl ⟨d, ds, by rw [hn, hds], (hdigits _ d (hds ▸ List.mem_cons_self)).2.2⟩)
    rw [hn] at hc
    exact ⟨(hdigits _ c hc).1, (hdigits _ c hc).2.1⟩
  · obtain ⟨d, ds, hds⟩ := List.exists_cons_of_ne_nil
      (Nat.toDigits_ne_nil (n := (-n).toNat) (b := 10))
    refine .bare (.of_word (by rw [hn]; exact List.cons_ne_nil _ _) fun c hc => ?_)
      (.inr ⟨d, ds, by rw [hn, hds], Json.isAsciiDigit_toDigits d (hds ▸ List.mem_cons_self)⟩)
    rw [hn] at hc
    rcases List.mem_cons.1 hc with rfl | hc
    · exact ⟨by simp [IsBareChar], by decide⟩
    · exact ⟨(hdigits _ c hc).1, (hdigits _ c hc).2.1⟩

/-- The words that stand for null and for truth values are read as they stand. -/
theorem written_word {s : String} (h : s ∈ ["~", "true", "false"]) : WrittenAs s.toList true s := by
  simp only [List.mem_cons, List.not_mem_nil, or_false] at h
  rcases h with rfl | rfl | rfl
  · exact .bare (.of_word (by decide) (by simp [IsBareChar])) (.inl ⟨'~', [], rfl, by decide⟩)
  · exact .bare (.of_word (by decide) (by simp [IsBareChar]))
      (.inl ⟨'t', ['r', 'u', 'e'], rfl, by decide⟩)
  · exact .bare (.of_word (by decide) (by simp [IsBareChar]))
      (.inl ⟨'f', ['a', 'l', 's', 'e'], rfl, by decide⟩)

/-! ### Printed lines -/

/-- Holds for documents that are printed on a single line, after a colon as well. -/
def isInline : Value → Bool
  | .list (_ :: _) | .object (_ :: _) => false
  | _ => true

theorem toList_newLine (level : Nat) :
    (newLine level).toList = '\n' :: List.replicate (2 * level) ' ' := by
  simp [newLine]

/-- What is printed after the first item. -/
theorem toList_items (level : Nat) (v : Value) (vs : List Value) : ∃ after,
    (items level (v :: vs)).toList = '-' :: ' ' :: ((node (level + 1) v).toList ++ after) ∧
      ((vs = [] ∧ after = []) ∨ (vs ≠ [] ∧
        after = '\n' :: (List.replicate (2 * level) ' ' ++ (items level vs).toList))) := by
  cases vs with
  | nil => exact ⟨[], by simp [items], .inl ⟨rfl, rfl⟩⟩
  | cons w vs => exact ⟨_, by simp [items, toList_newLine], .inr ⟨List.cons_ne_nil _ _, rfl⟩⟩

/-- What is printed after the first member. -/
theorem toList_members (level : Nat) (name : String) (v : Value) (ms : List (String × Value)) :
    ∃ after, (members level ((name, v) :: ms)).toList =
      (scalar name).toList ++ ':' :: ((member level v).toList ++ after) ∧
      ((ms = [] ∧ after = []) ∨ (ms ≠ [] ∧
        after = '\n' :: (List.replicate (2 * level) ' ' ++ (members level ms).toList))) := by
  cases ms with
  | nil => exact ⟨[], by simp [members], .inl ⟨rfl, rfl⟩⟩
  | cons m ms => exact ⟨_, by simp [members, toList_newLine], .inr ⟨List.cons_ne_nil _ _, rfl⟩⟩

theorem items_starts {vs : List Value} (h : vs ≠ []) (level : Nat) :
    Starts (items level vs).toList := by
  obtain ⟨v, vs, rfl⟩ := List.exists_cons_of_ne_nil h
  obtain ⟨after, hafter, -⟩ := toList_items level v vs
  exact ⟨'-', _, hafter, by decide⟩

theorem members_starts {ms : List (String × Value)} (h : ms ≠ []) (level : Nat) :
    Starts (members level ms).toList := by
  obtain ⟨⟨name, v⟩, ms, rfl⟩ := List.exists_cons_of_ne_nil h
  obtain ⟨after, hafter, -⟩ := toList_members level name v ms
  rw [hafter]
  exact (written_scalar name).starts.append _

/-- A printed document starts with neither a blank nor a comment. -/
theorem node_starts (level : Nat) (v : Value) : Starts (node level v).toList := by
  cases v with
  | null => exact ⟨'~', [], by rw [node]; rfl, by decide⟩
  | bool b =>
    cases b with
    | true => exact ⟨'t', ['r', 'u', 'e'], by rw [node]; rfl, by decide⟩
    | false => exact ⟨'f', ['a', 'l', 's', 'e'], by rw [node]; rfl, by decide⟩
  | int n =>
    rw [node]
    exact (written_int n).starts
  | text s =>
    rw [node]
    exact (written_scalar s).starts
  | list vs =>
    cases vs with
    | nil => exact ⟨'[', [']'], by rw [node]; rfl, by decide⟩
    | cons v vs =>
      rw [node]
      exact items_starts (List.cons_ne_nil _ _) level
  | object ms =>
    cases ms with
    | nil => exact ⟨'\x7b', ['\x7d'], by rw [node]; rfl, by decide⟩
    | cons m ms =>
      rw [node]
      exact members_starts (List.cons_ne_nil _ _) level

/-- What is printed after a colon: a document on the same line, or one on the next line. -/
theorem toList_member (level : Nat) (v : Value) :
    (isInline v = true ∧ (member level v).toList = ' ' :: (node (level + 1) v).toList) ∨
      (member level v).toList =
        '\n' :: (List.replicate (2 * (level + 1)) ' ' ++ (node (level + 1) v).toList) := by
  cases v with
  | list vs =>
    cases vs with
    | nil => exact .inl ⟨rfl, by simp [member, node]⟩
    | cons v vs => exact .inr (by simp [member, node, toList_newLine])
  | object ms =>
    cases ms with
    | nil => exact .inl ⟨rfl, by simp [member, node]⟩
    | cons m ms => exact .inr (by simp [member, node, toList_newLine])
  | bool b => cases b <;> exact .inl ⟨rfl, by simp [member, node]⟩
  | _ => exact .inl ⟨rfl, by simp [member, node]⟩

/-- A document after a colon stands on the same line, or deeper on the next one. -/
theorem member_gap (level : Nat) (v : Value) (k : Nat) (tail : List Char) : ∃ k' allowed,
    Gap k ((member level v).toList ++ tail) ((node (level + 1) v).toList ++ tail) k' allowed ∧
      (isInline v = true ∧ k' = k + 1 ∨ k' = 2 * (level + 1) ∧ allowed = true) := by
  have hopens := ((node_starts (level + 1) v).append tail).opens
  rcases toList_member level v with ⟨hinline, hblank⟩ | hline
  · rw [hblank]
    exact ⟨k + 1, false, .blank hopens, .inl ⟨hinline, rfl⟩⟩
  · rw [hline, List.cons_append, List.append_assoc]
    exact ⟨2 * (level + 1), true, .line hopens _, .inr ⟨rfl, rfl⟩⟩

/-! ### Tokens of lines -/

/-- **A document on a single line.** -/
theorem runs_inline (inline : isInline v = true)
    (ht : Stands t ((node level v).toList ++ tail) k ts allowed indent outer) (inside : indent ≤ k)
    (next : NextLine indent tail more n) :
    ∃ t', Stands t' more n ((tokens v).reverse ++ ts) true indent outer ∧ Runs t t' := by
  cases v with
  | null =>
    rw [node] at ht
    rw [tokens]
    exact runs_scalar (written_word (by decide)) ht inside next
  | bool b =>
    rw [node] at ht
    rw [tokens]
    cases b <;> exact runs_scalar (written_word (by decide)) ht inside next
  | int m =>
    rw [node] at ht
    rw [tokens]
    exact runs_scalar (written_int m) ht inside next
  | text s =>
    rw [node] at ht
    rw [tokens]
    exact runs_scalar (written_scalar s) ht inside next
  | list vs =>
    cases vs with
    | nil =>
      rw [node] at ht
      rw [tokens]
      exact runs_empty .list ht inside next
    | cons v vs => cases inline
  | object ms =>
    cases ms with
    | nil =>
      rw [node] at ht
      rw [tokens]
      exact runs_empty .map ht inside next
    | cons m ms => cases inline

/-- A block is closed by a line that starts less deep. -/
theorem runs_closes (ht : Stands t more n ts true k (indent :: outer)) (deep : indent < k)
    (next : NextLine indent tail more n) :
    ∃ u, Stands u more n (.blockEnd :: ts) true indent outer ∧ Runs t u := by
  obtain ⟨i, l, adjacent, rfl⟩ := ht
  have hmargin : margin ⟨more, i, l, n⟩ < k := by
    rw [margin]
    split
    · omega
    · rename_i hmore
      rcases next.shallow with hn | rfl
      · exact Int.lt_of_le_of_lt hn deep
      · exact absurd rfl hmore
  exact ⟨_, ⟨i, l, adjacent, rfl⟩, .here (close_deeper hmargin)⟩

/-- The lines of a document are cut into its tokens: on a line that goes on, or from the column of
its level. -/
def CutsNode (v : Value) : Prop :=
  ∀ {level k n : Nat} {ts : List Token} {allowed : Bool} {indent : Int} {outer : List Int}
    {t : Layout} {tail more : List Char},
    Stands t ((node level v).toList ++ tail) k ts allowed indent outer → indent < k →
    isInline v = true ∨ k = 2 * level ∧ allowed = true → NextLine indent tail more n →
    ∃ t', Stands t' more n ((tokens v).reverse ++ ts) true indent outer ∧ Runs t t'

/-- The lines of items are cut into their tokens, where the first one may open a block. -/
def CutsItems (vs : List Value) : Prop :=
  ∀ {level n : Nat} {ts : List Token} {indent : Int} {outer : List Int} {t : Layout}
    {tail more : List Char},
    Stands t ((items level vs).toList ++ tail) (2 * level) ts true indent outer →
    indent ≤ (2 * level : Nat) → NextLine (2 * level : Nat) tail more n →
    ∃ t', Stands t' more n ((itemTokens vs).reverse ++
      opened .blockSequenceStart indent (2 * level) ts) true (2 * level : Nat)
      (around indent (2 * level) outer) ∧ Runs t t'

/-- The lines of members are cut into their tokens, where the first one may open a block. -/
def CutsMembers (ms : List (String × Value)) : Prop :=
  ∀ {level n : Nat} {ts : List Token} {indent : Int} {outer : List Int} {t : Layout}
    {tail more : List Char},
    Stands t ((members level ms).toList ++ tail) (2 * level) ts true indent outer →
    indent ≤ (2 * level : Nat) → NextLine (2 * level : Nat) tail more n →
    ∃ t', Stands t' more n ((memberTokens ms).reverse ++
      opened .blockMappingStart indent (2 * level) ts) true (2 * level : Nat)
      (around indent (2 * level) outer) ∧ Runs t t'

theorem opened_self (token : Token) (k : Nat) (ts : List Token) : opened token k k ts = ts :=
  if_neg (Int.lt_irrefl _)

theorem around_self (k : Nat) (outer : List Int) : around k k outer = outer :=
  if_neg (Int.lt_irrefl _)

theorem cutsNode_inline (inline : isInline v = true) : CutsNode v :=
  fun ht inside _ next => runs_inline inline ht (Int.le_of_lt inside) next

theorem nextLine_append {s : List Char} (hs : Starts s) (k : Nat) :
    NextLine k ('\n' :: (List.replicate k ' ' ++ s) ++ tail) (s ++ tail) k :=
  ⟨by simp, (hs.append tail).opens, .inl (Int.le_refl _)⟩

theorem cutsItems_cons {vs : List Value} (hv : CutsNode v) (hvs : vs ≠ [] → CutsItems vs) :
    CutsItems (v :: vs) := by
  intro level n ts indent outer t tail more ht inside next
  obtain ⟨after, hafter, hnext⟩ := toList_items level v vs
  rw [hafter, List.cons_append, List.cons_append, List.append_assoc] at ht
  obtain ⟨u, hu, hdash⟩ := runs_dash ht ((node_starts _ v).append _).opens inside
  have deep : ((2 * level : Nat) : Int) < (2 * level + 2 : Nat) := by omega
  rcases hnext with ⟨rfl, rfl⟩ | ⟨hsome, rfl⟩
  · obtain ⟨t', ht', hnode⟩ := hv hu deep (.inr ⟨rfl, rfl⟩) next
    exact ⟨t', by simpa [itemTokens] using ht', hdash.trans hnode⟩
  · obtain ⟨v', hv', hnode⟩ := hv hu deep (.inr ⟨rfl, rfl⟩)
      (nextLine_append (items_starts hsome _) _)
    obtain ⟨t', ht', hitems⟩ := hvs hsome hv' (Int.le_refl _) next
    rw [opened_self, around_self] at ht'
    exact ⟨t', by simpa [itemTokens] using ht', hdash.trans (hnode.trans hitems)⟩

theorem cutsMembers_cons {name : String} {ms : List (String × Value)}
    (hlimit : (scalar name).toList.length ≤ keyLimit) (hv : CutsNode v)
    (hms : ms ≠ [] → CutsMembers ms) : CutsMembers ((name, v) :: ms) := by
  intro level n ts indent outer t tail more ht inside next
  obtain ⟨after, hafter, hnext⟩ := toList_members level name v ms
  rw [hafter, List.append_assoc, List.cons_append, List.append_assoc] at ht
  obtain ⟨k', allowed, hgap, hstands⟩ := member_gap level v
    (2 * level + (scalar name).toList.length + 1) (after ++ tail)
  obtain ⟨u, hu, hkey⟩ := runs_key (written_scalar name) hlimit ht hgap inside
  have deep : ((2 * level : Nat) : Int) < k' := by
    rcases hstands with ⟨-, hk⟩ | ⟨hk, -⟩ <;> omega
  have hplace : isInline v = true ∨ k' = 2 * (level + 1) ∧ allowed = true :=
    hstands.imp_left fun h => h.1
  rcases hnext with ⟨rfl, rfl⟩ | ⟨hsome, rfl⟩
  · obtain ⟨t', ht', hnode⟩ := hv hu deep hplace next
    exact ⟨t', by simpa [memberTokens] using ht', hkey.trans hnode⟩
  · obtain ⟨v', hv', hnode⟩ := hv hu deep hplace (nextLine_append (members_starts hsome _) _)
    obtain ⟨t', ht', hmembers⟩ := hms hsome hv' (Int.le_refl _) next
    rw [opened_self, around_self] at ht'
    exact ⟨t', by simpa [memberTokens] using ht', hkey.trans (hnode.trans hmembers)⟩

theorem cutsNode_list {vs : List Value} (h : CutsItems (v :: vs)) :
    CutsNode (.list (v :: vs)) := by
  intro level k n ts allowed indent outer t tail more ht inside stands next
  obtain ⟨rfl, rfl⟩ := stands.resolve_left Bool.false_ne_true
  rw [node] at ht
  obtain ⟨u, hu, hitems⟩ := h ht (Int.le_of_lt inside) (next.mono (Int.le_of_lt inside))
  rw [opened, around, if_pos inside, if_pos inside] at hu
  obtain ⟨t', ht', hclose⟩ := runs_closes hu inside next
  exact ⟨t', by simpa [tokens] using ht', hitems.trans hclose⟩

theorem cutsNode_object {m : String × Value} {ms : List (String × Value)}
    (h : CutsMembers (m :: ms)) : CutsNode (.object (m :: ms)) := by
  intro level k n ts allowed indent outer t tail more ht inside stands next
  obtain ⟨rfl, rfl⟩ := stands.resolve_left Bool.false_ne_true
  rw [node] at ht
  obtain ⟨u, hu, hmembers⟩ := h ht (Int.le_of_lt inside) (next.mono (Int.le_of_lt inside))
  rw [opened, around, if_pos inside, if_pos inside] at hu
  obtain ⟨t', ht', hclose⟩ := runs_closes hu inside next
  exact ⟨t', by simpa [tokens] using ht', hmembers.trans hclose⟩

mutual

/-- **The lines of a document are cut into its tokens.** -/
theorem cutsNode : ∀ v : Value, v.NamesFit → CutsNode v
  | .list (v :: vs), fits => cutsNode_list (cutsItems (v :: vs) fits (List.cons_ne_nil _ _))
  | .object (m :: ms), fits => cutsNode_object (cutsMembers (m :: ms) fits (List.cons_ne_nil _ _))
  | .list [], _ | .object [], _ | .null, _ | .bool _, _ | .int _, _ | .text _, _ =>
    cutsNode_inline rfl

/-- The lines of items are cut into their tokens. -/
theorem cutsItems : ∀ vs : List Value, Value.NamesFitAll vs → vs ≠ [] → CutsItems vs
  | [], _, h => absurd rfl h
  | v :: vs, fits, _ => cutsItems_cons (cutsNode v fits.1) (cutsItems vs fits.2)

/-- The lines of members are cut into their tokens. -/
theorem cutsMembers : ∀ ms : List (String × Value), Value.NamesFitMembers ms → ms ≠ [] →
    CutsMembers ms
  | [], _, h => absurd rfl h
  | (_, v) :: ms, fits, _ =>
    cutsMembers_cons fits.1 (cutsNode v fits.2.1) (cutsMembers ms fits.2.2)

end

/-! ### The end of the text -/

theorem noEnd_escapeChar (c : Char) : '\x00' ∉ escapeChar c := by
  rcases escapeChar_cases c with ⟨e, heq, he, -⟩ | ⟨a, b, heq, -, -, hdigits⟩ | ⟨heq, hprints, -, -⟩
  · rw [heq]
    rintro (_ | ⟨_, _ | ⟨_, ⟨⟩⟩⟩)
    cases he
  · rw [heq]
    have ha : '\x00' ≠ a := by
      rintro rfl
      cases hdigits
    have hb : '\x00' ≠ b := by
      rintro rfl
      simp [Numeral.digits?, Numeral.digit?] at hdigits
    simp [ha, hb]
  · rw [heq]
    rintro (_ | ⟨_, ⟨⟩⟩)
    exact absurd hprints (by decide)

theorem noEnd_of_written {w : List Char} {bare : Bool} {s : String} (h : WrittenAs w bare s) :
    '\x00' ∉ w := by
  cases h with
  | bare bare _ => exact fun hend => (bare.chars _ hend).2.2.2.2.2 rfl
  | quoted s =>
    rw [quote, String.toList_ofList]
    simpa using fun c _ => noEnd_escapeChar c

mutual

/-- A printed document does not hold the sign that ends a text. -/
theorem noEnd_node (level : Nat) : ∀ v : Value, '\x00' ∉ (node level v).toList
  | .null => by simp [node]
  | .bool b => by cases b <;> simp [node]
  | .int n => by
    rw [node]
    exact noEnd_of_written (written_int n)
  | .text s => by
    rw [node]
    exact noEnd_of_written (written_scalar s)
  | .list [] => by simp [node]
  | .object [] => by simp [node]
  | .list (v :: vs) => by
    rw [node]
    exact noEnd_items level (v :: vs)
  | .object (m :: ms) => by
    rw [node]
    exact noEnd_members level (m :: ms)

/-- Printed items do not hold the sign that ends a text. -/
theorem noEnd_items (level : Nat) : ∀ vs : List Value, '\x00' ∉ (items level vs).toList
  | [] => by simp [items]
  | v :: vs => by
    obtain ⟨after, hafter, hnext⟩ := toList_items level v vs
    have hv := noEnd_node (level + 1) v
    have hvs := noEnd_items level vs
    rw [hafter]
    rcases hnext with ⟨-, rfl⟩ | ⟨-, rfl⟩ <;> simp [hv, hvs]

/-- Printed members do not hold the sign that ends a text. -/
theorem noEnd_members (level : Nat) : ∀ ms : List (String × Value),
    '\x00' ∉ (members level ms).toList
  | [] => by simp [members]
  | (name, v) :: ms => by
    obtain ⟨after, hafter, hnext⟩ := toList_members level name v ms
    have hname := noEnd_of_written (written_scalar name)
    have hv := noEnd_node (level + 1) v
    have hms := noEnd_members level ms
    have hmember : '\x00' ∉ (member level v).toList := by
      rcases toList_member level v with ⟨-, hv'⟩ | hv' <;> simp [hv', hv]
    rw [hafter]
    rcases hnext with ⟨-, rfl⟩ | ⟨-, rfl⟩ <;> simp [hname, hmember, hms]

end

theorem toList_print (v : Value) :
    (print v).toList = '-' :: '-' :: '-' :: '\n' :: ((node 0 v).toList ++ ['\n']) := by
  simp [print]

/-- A printed document is read to its last character. -/
theorem start_print (v : Value) : Layout.start (print v).toList =
    block ⟨(print v).toList, 0, 0, 0⟩ [] true none (-1) [] none := by
  have hend : ∀ c ∈ (print v).toList, (!isEnd c) = true := by
    intro c hc
    rw [isEnd, Bool.not_eq_true', decide_eq_false_iff_not]
    rintro rfl
    simp [toList_print, noEnd_node 0 v] at hc
  rw [Layout.start, Cursor.start, List.takeWhile_eq_self_iff.2 hend]
  rfl

/-- **A printed document is cut into its tokens.** -/
theorem tokens?_print (fits : v.NamesFit) :
    tokens? (print v).toList = some (.documentStart :: (tokens v ++ [.streamEnd])) := by
  have hstart : Stands (Layout.start (print v).toList)
      ('-' :: '-' :: '-' :: '\n' :: ((node 0 v).toList ++ ['\n'])) 0 [] true (-1) [] :=
    ⟨_, _, _, by rw [start_print, toList_print]⟩
  have hland : (Layout.start (print v).toList).land? = some (Layout.start (print v).toList) := by
    have hopens : Starts (print v).toList := ⟨'-', _, toList_print v, by decide⟩
    rw [start_print]
    exact land?_opens hopens.opens (by rintro p ⟨⟩)
  have hlast : NextLine (-1) ['\n'] [] 0 := ⟨rfl, ⟨by rintro c ⟨⟩, by simp⟩, .inr rfl⟩
  obtain ⟨t, ht, hmark⟩ := runs_mark hstart ((node_starts 0 v).append _).opens
  obtain ⟨t', ht', hnode⟩ := cutsNode v fits ht (by decide) (.inr ⟨rfl, rfl⟩) hlast
  obtain ⟨e, hread, htokens⟩ := read?_end ht'
  rw [tokens?, (hmark.trans hnode).run? hread (by rw [htokens]; rfl) hland, htokens]
  · simp
  · rw [start_print]
    exact Nat.lt_add_of_pos_right (by decide)

end Yaml

end SuiteRunner
