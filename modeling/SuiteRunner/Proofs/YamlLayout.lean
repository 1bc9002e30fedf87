import SuiteRunner.Proofs.YamlScalars
import SuiteRunner.Yaml.Layout

/-!
# Reading tokens line by line

A step of the reader goes to the next token, closes the blocks that end before it, and reads it.  To
put steps one after the other, a run starts and ends where the next token has been reached but no
block has been closed: which blocks end there depends on what stands there.

* `Runs`, a number of tokens read, and `Runs.run?`, a run up to the end of the text;
* `block`, what is known outside of flow collections, and `Stands`, which leaves out the places;
* `close_deeper` and `close_inside`, where a block is closed and where none is;
* **`runs_scalar`**, **`runs_empty`** and **`runs_dash`** — the parts of a line that are read in one
  go: a scalar or an empty collection at its end, and the dash at its start;
* **`runs_key`** — a key with its colon, where the start of the block comes before the key;
* `runs_mark` and `read?_end`, the start of a document and the end of the text.
-/

namespace SuiteRunner.Yaml

namespace Layout

variable {s t t' t'' u : Layout} {ts : List Token} {rest tail : List Char} {c : Char}
  {i l k n fuel : Nat} {indent a b : Int} {outer : List Int} {allowed : Bool}
  {key : Option KeyPlace} {adjacent : Option Nat}

/-! ### Steps -/

/-- Goes to the next token, and forgets the places of keys that lie too far behind. -/
def land? (s : Layout) : Option Layout := (skipBlanks (s.cursor.rest.length + 1) s).dropStale?

/-- How deep the next token stands; the end of the text is less deep than all tokens. -/
def margin (c : Cursor) : Int := if isEnd c.head then -1 else c.col

/-- Closes the blocks that are deeper than the next token. -/
def close (s : Layout) : Layout := s.closeBlocks (margin s.cursor)

/-- Reads the token at the cursor. -/
def read? (s : Layout) : Option Layout :=
  let c := s.cursor
  if isEnd c.head then s.finish?
  else if c.col = 0 && c.head = '%' then s.stepDirective?
  else if c.atMark '-' then s.stepMark? .documentStart
  else if c.atMark '.' then s.stepMark? .documentEnd
  else s.stepSign?

theorem closeFrom_closeFrom (h : a ≤ b) (hindents : s.indents = outer) :
    (s.closeFrom b outer).closeFrom a (s.closeFrom b outer).indents = s.closeFrom a outer := by
  induction outer generalizing s with
  | nil => rw [closeFrom, hindents]
  | cons o outer ih =>
    rw [closeFrom]
    split
    · rw [hindents]
    · rename_i hdeep
      rw [ih rfl, closeFrom, if_neg (by omega)]

theorem cursor_closeFrom (s : Layout) (col : Int) (outer : List Int) :
    (s.closeFrom col outer).cursor = s.cursor ∧ (s.closeFrom col outer).keys = s.keys := by
  induction outer generalizing s with
  | nil => exact ⟨rfl, rfl⟩
  | cons o outer ih =>
    rw [closeFrom]
    split
    · exact ⟨rfl, rfl⟩
    · exact ih _

theorem cursor_closeBlocks (s : Layout) (col : Int) :
    (s.closeBlocks col).cursor = s.cursor ∧ (s.closeBlocks col).keys = s.keys := by
  rw [closeBlocks]
  split
  · exact ⟨rfl, rfl⟩
  · exact cursor_closeFrom s col _

theorem cursor_close (s : Layout) : s.close.cursor = s.cursor := (cursor_closeBlocks s _).1

/-- What is closed up to a column may be closed further. -/
theorem closeBlocks_closeBlocks (s : Layout) (h : a ≤ b) :
    (s.closeBlocks b).closeBlocks a = s.closeBlocks a := by
  have hflow : (s.closeBlocks b).inFlow = s.inFlow := by
    rw [inFlow, inFlow, flow, flow, (cursor_closeBlocks s b).2]
  rw [closeBlocks, hflow]
  cases hs : s.inFlow with
  | true => rw [if_pos rfl, closeBlocks, closeBlocks, hs, if_pos rfl, if_pos rfl]
  | false =>
    rw [if_neg Bool.false_ne_true, closeBlocks, closeBlocks, hs, if_neg Bool.false_ne_true,
      if_neg Bool.false_ne_true, closeFrom_closeFrom h rfl]

/-- **A step goes to the next token, closes blocks, and reads the token.** -/
theorem step?_eq (s : Layout) : s.step? = s.land?.bind fun t => t.close.read? := by
  have hread : ∀ t : Layout, (t.closeBlocks t.cursor.col).read? = t.close.read? := by
    intro t
    rw [close, margin]
    split
    · -- At the end all blocks are closed in any case.
      rename_i hend
      rw [read?, read?, (cursor_closeBlocks t _).1, (cursor_closeBlocks t _).1, if_pos hend,
        if_pos hend, finish?, finish?, closeBlocks_closeBlocks t (by omega),
        closeBlocks_closeBlocks t (by omega)]
    · rfl
  rw [step?, land?]
  cases (skipBlanks (s.cursor.rest.length + 1) s).dropStale? with
  | none => rfl
  | some t => exact hread t

/-- Reads the token at the cursor, and goes to the next one. -/
def move? (t : Layout) : Option Layout :=
  t.close.read?.bind fun s => if s.tokens.head? = some .streamEnd then none else s.land?

/-- Some tokens are read, and the blocks to be closed are the same. -/
inductive Runs : Layout → Layout → Prop
  | here {t t' : Layout} (h : t.close = t'.close) : Runs t t'
  | next {t u t' : Layout} (h : t.move? = some u)
    (short : u.cursor.rest.length < t.cursor.rest.length) (later : Runs u t') : Runs t t'

namespace Runs

theorem trans (h : Runs t t') (h' : Runs t' t'') : Runs t t'' := by
  induction h with
  | here heq =>
    cases h' with
    | here heq' => exact here (heq.trans heq')
    | next hmove short later =>
      have hcursor := congrArg cursor heq
      rw [cursor_close, cursor_close] at hcursor
      refine next ?_ (by rwa [hcursor]) later
      rwa [move?, heq]
  | next hmove short _ ih => exact next hmove short (ih h')

/-- **Tokens are read up to the end**: there is fuel enough, since every token is a part of the
text. -/
theorem run? {e : Layout} (h : Runs t t') (hread : t'.close.read? = some e)
    (hend : e.tokens.head? = some .streamEnd) (hland : s.land? = some t)
    (hfuel : t.cursor.rest.length < fuel) : s.run? fuel = some e.tokens.reverse := by
  induction h generalizing s fuel with
  | here heq =>
    obtain ⟨fuel, rfl⟩ : ∃ n, fuel = n + 1 := ⟨fuel - 1, by omega⟩
    rw [Layout.run?, step?_eq, hland, Option.bind_some, heq, hread]
    simp [hend]
  | @next t u t' hmove short _ ih =>
    obtain ⟨fuel, rfl⟩ : ∃ n, fuel = n + 1 := ⟨fuel - 1, by omega⟩
    obtain ⟨v, hv, hmore⟩ := Option.bind_eq_some_iff.1 hmove
    split at hmore
    · cases hmore
    · rename_i hgoes
      rw [Layout.run?, step?_eq, hland, Option.bind_some, hv]
      simp only [Option.bind_eq_bind, Option.bind_some, if_neg hgoes]
      exact ih hread hmore (by omega)

end Runs

/-! ### Outside of flow collections -/

/-- A layout outside of flow collections. -/
def block (c : Cursor) (ts : List Token) (allowed : Bool) (key : Option KeyPlace) (indent : Int)
    (outer : List Int) (adjacent : Option Nat) : Layout :=
  ⟨c, ts, ts.length, allowed, [key], indent, outer, adjacent⟩

/-- The text is that of a token. -/
def Opens (rest : List Char) : Prop := GoesOn rest ∧ rest.head? ≠ some '#'

theorem skipBlanks_opens {c : Cursor} (hs : s.cursor = c) (hrest : Opens c.rest)
    (hfuel : 0 < fuel) : skipBlanks fuel s = s := by
  obtain ⟨fuel, rfl⟩ : ∃ n, fuel = n + 1 := ⟨fuel - 1, by omega⟩
  obtain ⟨rest, i, l, k⟩ := c
  obtain ⟨hgoes, hcomment⟩ := hrest
  obtain ⟨hblank, hbreak⟩ := hgoes.head (i := i) (l := l) (k := k)
  have hhead : (⟨rest, i, l, k⟩ : Cursor).head ≠ '#' := by
    cases rest with
    | nil => exact (by decide : '\x00' ≠ '#')
    | cons c rest => exact fun h => hcomment (congrArg some h)
  rw [isBlank, Bool.or_eq_false_iff, decide_eq_false_iff_not, decide_eq_false_iff_not] at hblank
  rw [skipBlanks, hs, hbreak]
  simp [hblank.1, hblank.2, hhead]

/-- Blanks before a token are skipped. -/
theorem skipBlanks_blanks (hrest : Opens rest) (hfuel : n < fuel) :
    skipBlanks fuel (block ⟨List.replicate n ' ' ++ rest, i, l, k⟩ ts allowed key indent outer
      adjacent) = block ⟨rest, i + n, l, k + n⟩ ts allowed key indent outer adjacent := by
  induction n generalizing fuel i k with
  | zero => exact skipBlanks_opens rfl hrest hfuel
  | succ n ih =>
    obtain ⟨fuel, rfl⟩ : ∃ n, fuel = n + 1 := ⟨fuel - 1, by omega⟩
    rw [skipBlanks]
    show skipBlanks fuel (block (Cursor.skip ⟨' ' :: (List.replicate n ' ' ++ rest), i, l, k⟩) ts
      allowed key indent outer adjacent) = _
    rw [Cursor.skip_cons (by decide), ih (by omega), Nat.add_assoc, Nat.add_assoc, Nat.add_comm 1]

/-- At a new line a key may start. -/
theorem skipBlanks_newLine (hrest : Opens rest) (hfuel : n + 1 < fuel) :
    skipBlanks fuel (block ⟨'\n' :: (List.replicate n ' ' ++ rest), i, l, k⟩ ts allowed key indent
      outer adjacent) = block ⟨rest, i + 1 + n, l + 1, n⟩ ts true key indent outer adjacent := by
  obtain ⟨fuel, rfl⟩ : ∃ n, fuel = n + 1 := ⟨fuel - 1, by omega⟩
  rw [skipBlanks]
  show skipBlanks fuel (block (Cursor.skipLine ⟨'\n' :: (List.replicate n ' ' ++ rest), i, l, k⟩) ts
    (allowed || !false) key indent outer adjacent) = _
  rw [Cursor.skipLine_newLine, Bool.not_false, Bool.or_true, skipBlanks_blanks hrest (by omega),
    Nat.zero_add]

/-- A place where a key may start, but does not have to. -/
def place (number i l k : Nat) : KeyPlace := ⟨number, i, l, k, false⟩

/-- No key starts on the lines before. -/
theorem dropStale?_passed {c : Cursor}
    (hkey : ∀ p ∈ key, p.required = false ∧ p.line < c.line) :
    (block c ts allowed key indent outer adjacent).dropStale? =
      some (block c ts allowed none indent outer adjacent) := by
  cases key with
  | none => rfl
  | some p =>
    obtain ⟨hrequired, hline⟩ := hkey p rfl
    simp [dropStale?, block, isStale, hrequired, hline]

theorem dropStale?_none {c : Cursor} :
    (block c ts allowed none indent outer adjacent).dropStale? =
      some (block c ts allowed none indent outer adjacent) := rfl

/-- A key is not too long. -/
theorem dropStale?_near {c : Cursor} {number : Nat} (hline : c.line = l)
    (hlimit : c.index ≤ i + keyLimit) :
    (block c ts allowed (some (place number i l k)) indent outer adjacent).dropStale? =
      some (block c ts allowed (some (place number i l k)) indent outer adjacent) := by
  have hfresh : isStale c (place number i l k) = false := by
    have hnear : ¬ i + keyLimit < c.index := by omega
    simp [isStale, place, hline, hnear]
  simp [dropStale?, block, hfresh]

/-- **The next token on the line.** -/
theorem land?_blanks (hrest : Opens rest) :
    (block ⟨List.replicate n ' ' ++ rest, i, l, k⟩ ts allowed none indent outer adjacent).land? =
      some (block ⟨rest, i + n, l, k + n⟩ ts allowed none indent outer adjacent) := by
  rw [land?, skipBlanks_blanks hrest (by simp only [block, length_blanks]; omega), dropStale?_none]

/-- **The next token, if it is on a new line.** -/
theorem land?_newLine (hrest : Opens rest)
    (hkey : ∀ p ∈ key, p.required = false ∧ p.line ≤ l) :
    (block ⟨'\n' :: (List.replicate n ' ' ++ rest), i, l, k⟩ ts allowed key indent outer
      adjacent).land? =
      some (block ⟨rest, i + 1 + n, l + 1, n⟩ ts true none indent outer adjacent) := by
  rw [land?, skipBlanks_newLine hrest
    (by simp only [block, List.length_cons, length_blanks]; omega)]
  exact dropStale?_passed fun p hp => (hkey p hp).imp_right Nat.lt_succ_of_le

/-- The next token, if it has been reached. -/
theorem land?_opens {c : Cursor} (hrest : Opens c.rest)
    (hkey : ∀ p ∈ key, p.required = false ∧ p.line < c.line) :
    (block c ts allowed key indent outer adjacent).land? =
      some (block c ts allowed none indent outer adjacent) := by
  rw [land?, skipBlanks_opens rfl hrest (Nat.succ_pos _)]
  exact dropStale?_passed hkey

/-- A block is closed if the next token stands less deep, or is none. -/
theorem close_deeper {o : Int} {c : Cursor}
    (h : margin c < indent) :
    (block c ts allowed key indent (o :: outer) adjacent).close =
      (block c (.blockEnd :: ts) allowed key o outer adjacent).close := by
  rw [close, close, closeBlocks, closeBlocks]
  show (if false = true then _ else closeFrom _ _ (o :: outer)) = _
  rw [if_neg Bool.false_ne_true, closeFrom]
  show (if indent ≤ margin c then _ else _) = _
  rw [if_neg (by omega)]
  rfl

/-- No block is closed by a token that does not stand less deep. -/
theorem close_inside {c : Cursor} (h : indent ≤ margin c) :
    (block c ts allowed key indent outer adjacent).close =
      block c ts allowed key indent outer adjacent := by
  rw [close, closeBlocks]
  show (if false = true then _ else closeFrom _ _ outer) = _
  rw [if_neg Bool.false_ne_true]
  cases outer with
  | nil => rfl
  | cons o outer =>
    rw [closeFrom]
    exact if_pos h

/-- The tokens with the start of a block before those in front, if it is deeper. -/
theorem insert_block {c : Cursor} (front : List Token) (token : Token) :
    (block c (front ++ ts) allowed key indent outer adjacent).insert ts.length token =
      block c (front ++ token :: ts) allowed key indent outer adjacent := by
  simp [insert, block, Nat.add_assoc]

/-! ### Scalars -/

/-- The signs that a bare text does not start with. -/
def signs : List Char := [
  '[', ']', '\x7b', '\x7d', ',', '-', '?', ':', '*', '&', '!', '|', '>', '\'', '"', '%', '@',
  '\x60', '.', '#', ' ']

/-- The text starts with no sign, or is a negative number. -/
def StartsPlain (s : List Char) : Prop :=
  (∃ c rest, s = c :: rest ∧ c ∉ signs) ∨
    ∃ d rest, s = '-' :: d :: rest ∧ Unicode.isAsciiDigit d = true

/-- How a scalar is written: bare, or between quotation marks. -/
inductive WrittenAs : List Char → Bool → String → Prop
  | bare {s : String} (h : IsBare s.toList) (starts : StartsPlain s.toList) :
      WrittenAs s.toList true s
  | quoted (s : String) : WrittenAs (quote s).toList false s

theorem isBlankOrEnd_digit (h : Unicode.isAsciiDigit c = true) : isBlankOrEnd c = false := by
  have hne : ∀ d : Char, Unicode.isAsciiDigit d = false → c ≠ d := by
    rintro d hd rfl
    rw [h] at hd
    cases hd
  simp [isBlankOrEnd, isBlank, isBreakOrEnd, isBreak, isEnd, hne ' ' rfl, hne '\t' rfl,
    hne '\n' rfl, hne '\r' rfl, hne '\x00' rfl]

/-- A text that starts with no sign is no document mark. -/
theorem StartsPlain.atMark {w : List Char} (h : StartsPlain w) :
    (⟨w ++ rest, i, l, k⟩ : Cursor).atMark '-' = false ∧
      (⟨w ++ rest, i, l, k⟩ : Cursor).atMark '.' = false := by
  rcases h with ⟨c, more, rfl, hc⟩ | ⟨d, more, rfl, hd⟩
  · have hdash : c ≠ '-' := fun h => hc (h ▸ by decide)
    have hdot : c ≠ '.' := fun h => hc (h ▸ by decide)
    simp [Cursor.atMark, Cursor.peek, hdash, hdot]
  · have hdash : d ≠ '-' := by
      rintro rfl
      cases hd
    simp [Cursor.atMark, Cursor.peek, hdash]

/-- What starts with no sign is read as a plain scalar. -/
theorem stepSign?_plain {w : List Char} (h : StartsPlain w) (hs : s.cursor.rest = w ++ rest) :
    s.stepSign? = s.stepPlain? := by
  rcases h with ⟨c, more, rfl, hc⟩ | ⟨d, more, rfl, hd⟩
  · have hhead : s.cursor.head = c := by rw [Cursor.head, hs]; rfl
    simp only [stepSign?, hhead]
    split <;> first | rfl | exact absurd (by decide) hc
  · have hhead : s.cursor.head = '-' := by rw [Cursor.head, hs]; rfl
    have hpeek : s.cursor.peek 1 = d := by rw [Cursor.peek, hs]; rfl
    simp [stepSign?, hhead, hpeek, isBlankOrEnd_digit hd]

/-- A token that is no mark starts with its sign. -/
theorem read?_eq_stepSign? (hs : s.cursor = ⟨c :: rest, i, l, k⟩) (hend : c ≠ '\x00')
    (hpercent : c ≠ '%') (hmark : s.cursor.atMark '-' = false ∧ s.cursor.atMark '.' = false) :
    s.read? = s.stepSign? := by
  have hhead : s.cursor.head = c := by rw [hs]; rfl
  simp [read?, hhead, isEnd, hend, hpercent, hmark]

theorem read?_sign (hs : s.cursor = ⟨c :: rest, i, l, k⟩) (hc : c ∉ ['\x00', '%', '-', '.']) :
    s.read? = s.stepSign? := by
  simp only [List.mem_cons, List.not_mem_nil, or_false, not_or] at hc
  obtain ⟨hend, hpercent, hdash, hdot⟩ := hc
  exact read?_eq_stepSign? hs hend hpercent (by simp [hs, Cursor.atMark, Cursor.peek, hdash, hdot])

/-- A key may start at the next token, if keys are allowed. -/
theorem saveKey?_block {c : Cursor} : (block c ts allowed none indent outer adjacent).saveKey? =
    some (block c ts allowed (if allowed then some (place ts.length c.index c.line c.col) else none)
      indent outer adjacent) := by
  cases allowed <;> rfl

/-- **A scalar is read**, however it is written. -/
theorem read?_scalar {w : List Char} {bare broken : Bool} {text : String} {after : Cursor}
    (ht : t = block ⟨w ++ tail, i, l, k⟩ ts allowed none indent outer adjacent)
    (written : WrittenAs w bare text) (inside : indent ≤ k)
    (ends : EndsPlain (indent + 1) tail (i + w.length) l (k + w.length) broken after) :
    ∃ adjacent', t.read? =
      some (block (if bare then after else ⟨tail, i + w.length, l, k + w.length⟩)
        (.scalar bare text :: ts) (bare && broken)
        (if allowed then some (place ts.length i l k) else none) indent outer adjacent') := by
  subst ht
  cases written with
  | bare bare starts =>
    have hread : (block ⟨text.toList ++ tail, i, l, k⟩ ts allowed none indent outer
        adjacent).read? = (block ⟨text.toList ++ tail, i, l, k⟩ ts allowed none indent outer
        adjacent).stepPlain? := by
      rw [← stepSign?_plain starts rfl]
      obtain ⟨c, more, hc⟩ := List.exists_cons_of_ne_nil bare.nonempty
      have hchar := bare.chars c (by rw [hc]; exact List.mem_cons_self)
      refine read?_eq_stepSign? (c := c) (by rw [hc]; rfl) hchar.2.2.2.2.2 ?_ starts.atMark
      rintro rfl
      rcases starts with ⟨d, more', hd, hsign⟩ | ⟨d, more', hd, -⟩
      · rw [hc] at hd
        exact hsign ((List.cons.inj hd).1 ▸ by decide)
      · rw [hc] at hd
        exact absurd (List.cons.inj hd).1 (by decide)
    refine ⟨adjacent, ?_⟩
    rw [hread, stepPlain?, saveKey?_block]
    show (plain? false indent ⟨text.toList ++ tail, i, l, k⟩).bind _ = _
    rw [plain?_bare bare starts.atMark inside ends]
    rfl
  | quoted =>
    obtain ⟨more, hquote⟩ : ∃ more, (quote text).toList = '"' :: more :=
      ⟨_, by rw [quote, String.toList_ofList]; rfl⟩
    have hscalar : quoted? false ⟨(quote text).toList ++ tail, i, l, k⟩ = _ := quoted?_quote text
    generalize (quote text).toList = w at hquote hscalar
    have hread : (block ⟨w ++ tail, i, l, k⟩ ts allowed none indent outer adjacent).read? =
        (block ⟨w ++ tail, i, l, k⟩ ts allowed none indent outer adjacent).stepQuoted? false := by
      rw [hquote]
      exact (read?_sign rfl (by decide)).trans rfl
    refine ⟨some (i + w.length), ?_⟩
    rw [hread, stepQuoted?, saveKey?_block]
    show (quoted? false ⟨w ++ tail, i, l, k⟩).bind _ = _
    rw [hscalar]
    rfl


/-! ### Moves -/

/-- The text starts with a character that is neither blank nor the start of a comment. -/
def Starts (s : List Char) : Prop :=
  ∃ c rest, s = c :: rest ∧ c ∉ [' ', '\t', '\n', '\r', '\x00', '#']

theorem Starts.append (h : Starts rest) (more : List Char) : Starts (rest ++ more) := by
  obtain ⟨c, after, rfl, hc⟩ := h
  exact ⟨c, after ++ more, rfl, hc⟩

theorem Starts.opens (h : Starts rest) : Opens rest := by
  obtain ⟨c, after, rfl, hc⟩ := h
  simp only [List.mem_cons, List.not_mem_nil, or_false, not_or] at hc
  obtain ⟨hblank, htab, hline, hreturn, -, hcomment⟩ := hc
  refine ⟨?_, by simpa using hcomment⟩
  rintro d ⟨⟩
  simp [isBlank, isBreak, hblank, htab, hline, hreturn]

theorem Starts.margin (h : Starts rest) : margin ⟨rest, i, l, k⟩ = k := by
  obtain ⟨c, after, rfl, hc⟩ := h
  simp only [List.mem_cons, List.not_mem_nil, or_false, not_or] at hc
  have hend : c ≠ '\x00' := hc.2.2.2.2.1
  simp [Layout.margin, Cursor.head, isEnd, hend]

/-- The layout stands at a token, outside of flow collections. -/
def Stands (t : Layout) (rest : List Char) (k : Nat) (ts : List Token) (allowed : Bool)
    (indent : Int) (outer : List Int) : Prop :=
  ∃ i l adjacent, t = block ⟨rest, i, l, k⟩ ts allowed none indent outer adjacent

/-- A token that closes no block is read. -/
theorem Runs.of_read {e : Layout} (hclose : t.close = t) (hread : t.read? = some e)
    (hend : e.tokens.head? ≠ some .streamEnd) (hland : e.land? = some u)
    (short : u.cursor.rest.length < t.cursor.rest.length) : Runs t u := by
  refine .next ?_ short (.here rfl)
  rw [move?, hclose, hread, Option.bind_some, if_neg hend, hland]

/-- A token that is no less deep than the blocks around it closes none of them. -/
theorem close_eq (ht : t = block ⟨rest, i, l, k⟩ ts allowed key indent outer adjacent)
    (hstarts : Starts rest) (inside : indent ≤ k) : t.close = t := by
  rw [ht, close_inside (by rwa [hstarts.margin])]

/-- What follows a node: a line that starts no deeper than the block around the node. -/
structure NextLine (indent : Int) (tail more : List Char) (n : Nat) : Prop where
  eq : tail = '\n' :: (List.replicate n ' ' ++ more)
  opens : Opens more
  shallow : (n : Int) ≤ indent ∨ more = []

theorem NextLine.mono {more : List Char} (h : NextLine a tail more n) (hle : a ≤ b) :
    NextLine b tail more n :=
  ⟨h.eq, h.opens, h.shallow.imp_left fun hn => Int.le_trans hn hle⟩

theorem WrittenAs.starts {w : List Char} {bare : Bool} {text : String}
    (h : WrittenAs w bare text) : Starts w := by
  cases h with
  | bare bare starts =>
    obtain ⟨c, more, hc⟩ := List.exists_cons_of_ne_nil bare.nonempty
    obtain ⟨-, hcomment, htab, hline, hreturn, hend⟩ :=
      bare.chars c (by rw [hc]; exact List.mem_cons_self)
    have hblank : c ≠ ' ' := fun h => bare.first (by rw [hc, h]; rfl)
    exact ⟨c, more, hc, by simp [hcomment, htab, hline, hreturn, hend, hblank]⟩
  | quoted s => exact ⟨'"', _, by rw [quote, String.toList_ofList]; rfl, by decide⟩

/-- A key that may start here is passed with the line. -/
theorem passed_of_saved : ∀ p ∈ (if allowed then some (place n i l k) else none),
    p.required = false ∧ p.line ≤ l := by
  cases allowed with
  | false => rintro p ⟨⟩
  | true =>
    rintro p ⟨⟩
    exact ⟨rfl, Nat.le_refl _⟩

/-- **A scalar at the end of a line.** -/
theorem runs_scalar {w more : List Char} {bare : Bool} {text : String}
    (written : WrittenAs w bare text) (ht : Stands t (w ++ tail) k ts allowed indent outer)
    (inside : indent ≤ k) (next : NextLine indent tail more n) :
    ∃ t', Stands t' more n (.scalar bare text :: ts) true indent outer ∧ Runs t t' := by
  obtain ⟨i, l, adjacent, ht⟩ := ht
  obtain ⟨rfl, hopens, hshallow⟩ := next
  obtain ⟨adjacent', hread⟩ := read?_scalar ht written inside
    (endsPlain_newLine hopens.1 (hshallow.imp_left Int.lt_add_one_of_le))
  have hclose := close_eq ht (written.starts.append _) inside
  -- A bare scalar has been read up to the next line, a quoted one up to the end of its own.
  cases bare with
  | true =>
    exact ⟨_, ⟨_, _, _, rfl⟩, .of_read hclose hread (by simp [block]) (land?_opens hopens
      fun p hp => (passed_of_saved p hp).imp_right Nat.lt_succ_of_le) (by simp [ht, block]; omega)⟩
  | false =>
    exact ⟨_, ⟨_, _, _, rfl⟩, .of_read hclose hread (by simp [block])
      (land?_newLine hopens passed_of_saved) (by simp [ht, block]; omega)⟩

/-! ### Empty collections -/

/-- The signs of an empty collection, and their tokens. -/
inductive Brackets : Char → Char → Token → Token → Prop
  | list : Brackets '[' ']' .flowSequenceStart .flowSequenceEnd
  | map : Brackets '\x7b' '\x7d' .flowMappingStart .flowMappingEnd

/-- A layout in a flow collection. -/
def flowBlock (c : Cursor) (ts : List Token) (key : Option KeyPlace) (indent : Int)
    (outer : List Int) (adjacent : Option Nat) : Layout :=
  ⟨c, ts, ts.length, true, [none, key], indent, outer, adjacent⟩

/-- The start of a collection is read. -/
theorem Brackets.read?_first {o e : Char} {first last : Token}
    (brackets : Brackets o e first last) :
    (block ⟨o :: rest, i, l, k⟩ ts allowed none indent outer adjacent).read? =
      some (flowBlock ⟨rest, i + 1, l, k + 1⟩ (first :: ts)
        (if allowed then some (place ts.length i l k) else none) indent outer adjacent) := by
  cases brackets <;> cases allowed <;> exact (read?_sign rfl (by decide)).trans rfl

/-- The end of a collection is read. -/
theorem Brackets.read?_last {o e : Char} {first last : Token}
    (brackets : Brackets o e first last) :
    (flowBlock ⟨e :: rest, i, l, k⟩ ts key indent outer adjacent).read? =
      some (block ⟨rest, i + 1, l, k + 1⟩ (last :: ts) false key indent outer adjacent) := by
  cases brackets <;> exact (read?_sign rfl (by decide)).trans rfl

theorem Brackets.starts {o e : Char} {first last : Token}
    (brackets : Brackets o e first last) :
    Starts (o :: rest) ∧ Starts (e :: rest) := by
  cases brackets with
  | list => exact ⟨⟨'[', rest, rfl, by decide⟩, ⟨']', rest, rfl, by decide⟩⟩
  | map => exact ⟨⟨'\x7b', rest, rfl, by decide⟩, ⟨'\x7d', rest, rfl, by decide⟩⟩

/-- The key that may start with a collection is kept inside of it. -/
theorem land?_flowBlock (hrest : Opens rest) (number : Nat) :
    let t := flowBlock ⟨rest, i + 1, l, k + 1⟩ ts
      (if allowed then some (place number i l k) else none) indent outer adjacent
    t.land? = some t := by
  dsimp only
  rw [land?, skipBlanks_opens rfl hrest (Nat.succ_pos _)]
  cases allowed <;> simp [dropStale?, flowBlock, isStale, place, keyLimit]

/-- **An empty collection at the end of a line.** -/
theorem runs_empty {o e : Char} {first last : Token} {more : List Char}
    (brackets : Brackets o e first last)
    (ht : Stands t (o :: e :: tail) k ts allowed indent outer) (inside : indent ≤ k)
    (next : NextLine indent tail more n) :
    ∃ t', Stands t' more n (last :: first :: ts) true indent outer ∧ Runs t t' := by
  obtain ⟨i, l, adjacent, ht⟩ := ht
  obtain ⟨rfl, hopens, -⟩ := next
  have hfirst : t.read? = _ := ht ▸ brackets.read?_first
  have hopened := Runs.of_read (close_eq ht brackets.starts.1 inside) hfirst
    (by cases brackets <;> simp [flowBlock])
    (land?_flowBlock brackets.starts.2.opens _) (by simp [ht, block, flowBlock])
  exact ⟨_, ⟨_, _, _, rfl⟩, hopened.trans (.of_read rfl brackets.read?_last
    (by cases brackets <;> simp [block]) (land?_newLine hopens passed_of_saved)
    (by simp [block, flowBlock]; omega))⟩

/-! ### Entries of blocks -/

/-- The tokens with the start of a block, if a column opens one. -/
def opened (token : Token) (indent : Int) (k : Nat) (ts : List Token) : List Token :=
  if indent < k then token :: ts else ts

/-- The blocks around a column that may open one. -/
def around (indent : Int) (k : Nat) (outer : List Int) : List Int :=
  if indent < k then indent :: outer else outer

/-- A block is opened before the tokens in front, if the column is deeper. -/
theorem openBlock_block {c : Cursor} (inside : indent ≤ k) (front : List Token) (token : Token) :
    (block c (front ++ ts) allowed key indent outer adjacent).openBlock k ts.length token =
      block c (front ++ opened token indent k ts) allowed key k (around indent k outer)
        adjacent := by
  rw [openBlock, opened, around]
  show (if (false || decide ((k : Int) ≤ indent)) = true then _ else _) = _
  rw [Bool.false_or]
  by_cases hdeep : indent < k
  · rw [if_neg (by simpa using hdeep), if_pos hdeep, if_pos hdeep]
    exact insert_block front token
  · obtain rfl : indent = k := by omega
    rw [if_pos (by simp), if_neg hdeep, if_neg hdeep]

/-- **The dash of an entry**, which opens a block if it stands deeper. -/
theorem runs_dash (ht : Stands t ('-' :: ' ' :: rest) k ts true indent outer) (hrest : Opens rest)
    (inside : indent ≤ k) :
    ∃ t', Stands t' rest (k + 2) (.blockEntry :: opened .blockSequenceStart indent k ts) true k
      (around indent k outer) ∧ Runs t t' := by
  obtain ⟨i, l, adjacent, rfl⟩ := ht
  have hread : (block ⟨'-' :: ' ' :: rest, i, l, k⟩ ts true none indent outer adjacent).read? =
      some (block ⟨' ' :: rest, i + 1, l, k + 1⟩
        (.blockEntry :: opened .blockSequenceStart indent k ts) true none k (around indent k outer)
        adjacent) := by
    refine (read?_eq_stepSign? rfl (by decide) (by decide)
      (by simp [block, Cursor.atMark, Cursor.peek])).trans ?_
    show (((block ⟨'-' :: ' ' :: rest, i, l, k⟩ ([] ++ ts) true none indent outer
      adjacent).openBlock k ts.length .blockSequenceStart).dropKey?.bind _) = _
    rw [openBlock_block inside []]
    rfl
  have hstarts : Starts ('-' :: ' ' :: rest) := ⟨'-', ' ' :: rest, rfl, by decide⟩
  exact ⟨_, ⟨_, _, _, rfl⟩, .of_read (close_eq rfl hstarts inside) hread (by simp [block])
    (land?_blanks (n := 1) hrest) (by simp only [block, List.length_cons]; omega)⟩

/-- What stands between a colon and its value: a blank, or a new line, after which a key may start.
Both the column after the colon and that of the value are named. -/
inductive Gap (k : Nat) : List Char → List Char → Nat → Bool → Prop
  | blank {rest : List Char} (h : Opens rest) : Gap k (' ' :: rest) rest (k + 1) false
  | line {rest : List Char} (h : Opens rest) (n : Nat) :
      Gap k ('\n' :: (List.replicate n ' ' ++ rest)) rest n true

/-- A colon shows that the last token is a key. -/
theorem stepValue?_block {token : Token} {c : Cursor} (inside : indent ≤ k) :
    (block c (token :: ts) allowed (some (place ts.length i l k)) indent outer
      adjacent).stepValue? =
      some (block c.skip (.value :: token :: .key :: opened .blockMappingStart indent k ts) false
        none k (around indent k outer) adjacent) := by
  have hkey : (block c (token :: ts) allowed (some (place ts.length i l k)) indent outer
      adjacent).insert ts.length .key = block c ([token, .key] ++ ts) allowed
        (some (place ts.length i l k)) indent outer adjacent := insert_block [token] .key
  show some (take (allowKey { openBlock (insert (block c (token :: ts) allowed
    (some (place ts.length i l k)) indent outer adjacent) ts.length .key) k ts.length
      .blockMappingStart with keys := [none] } false) 1 .value) = _
  rw [hkey, openBlock_block inside]
  rfl

/-- **A key with its colon**, which opens a block if it stands deeper. -/
theorem runs_key {w gap : List Char} {bare : Bool} {name : String} {k' : Nat} {allowed : Bool}
    (written : WrittenAs w bare name) (hlimit : w.length ≤ keyLimit)
    (ht : Stands t (w ++ ':' :: gap) k ts true indent outer)
    (hgap : Gap (k + w.length + 1) gap rest k' allowed) (inside : indent ≤ k) :
    ∃ t', Stands t' rest k' (.value :: .scalar bare name :: .key ::
      opened .blockMappingStart indent k ts) allowed k (around indent k outer) ∧ Runs t t' := by
  obtain ⟨i, l, adjacent, ht⟩ := ht
  obtain ⟨c, gap', hc, hblank⟩ : ∃ c gap', gap = c :: gap' ∧ isBlankOrEnd c = true := by
    cases hgap with
    | blank h => exact ⟨' ', _, rfl, rfl⟩
    | line h n => exact ⟨'\n', _, rfl, rfl⟩
  -- The key is a scalar, and the place where it starts is kept.
  obtain ⟨adjacent', hscalar⟩ := read?_scalar ht written inside (hc ▸ endsPlain_colon hblank)
  rw [ite_self, Bool.and_false, if_pos rfl] at hscalar
  have hcolon : Starts (':' :: gap) := ⟨':', gap, rfl, by decide⟩
  have hland : (block ⟨':' :: gap, i + w.length, l, k + w.length⟩ (.scalar bare name :: ts)
      false (some (place ts.length i l k)) indent outer adjacent').land? =
      some (block ⟨':' :: gap, i + w.length, l, k + w.length⟩ (.scalar bare name :: ts)
        false (some (place ts.length i l k)) indent outer adjacent') := by
    rw [land?, skipBlanks_opens rfl hcolon.opens (Nat.succ_pos _)]
    exact dropStale?_near rfl (Nat.add_le_add_left hlimit i)
  have hshort : (':' :: gap).length < t.cursor.rest.length := by
    obtain ⟨d, more, rfl, -⟩ := written.starts
    simp only [ht, block, List.length_append, List.length_cons]
    omega
  have hkey := Runs.of_read (close_eq ht (written.starts.append _) inside) hscalar
    (by simp [block]) hland hshort
  -- The colon shows that a key has started there.
  have hvalue : (block ⟨':' :: gap, i + w.length, l, k + w.length⟩ (.scalar bare name :: ts)
      false (some (place ts.length i l k)) indent outer adjacent').read? =
      some (block ⟨gap, i + w.length + 1, l, k + w.length + 1⟩ (.value :: .scalar bare name ::
        .key :: opened .blockMappingStart indent k ts) false none k (around indent k outer)
        adjacent') := by
    refine (read?_sign rfl (by decide)).trans ?_
    show (if isBlankOrEnd (Cursor.peek ⟨':' :: gap, _, _, _⟩ 1) || _ then _ else _) = _
    rw [hc]
    show (if isBlankOrEnd c || _ then _ else _) = _
    rw [hblank, Bool.true_or, if_pos rfl]
    exact stepValue?_block inside
  cases hgap with
  | blank h =>
    exact ⟨_, ⟨_, _, _, rfl⟩, hkey.trans (.of_read (close_eq rfl hcolon (by omega)) hvalue
      (by simp [block]) (land?_blanks (n := 1) h) (by simp only [block, List.length_cons]; omega))⟩
  | line h n =>
    exact ⟨_, ⟨_, _, _, rfl⟩, hkey.trans (.of_read (close_eq rfl hcolon (by omega)) hvalue
      (by simp [block]) (land?_newLine h (by rintro p ⟨⟩))
      (by simp only [block, List.length_cons, length_blanks]; omega))⟩

/-! ### Start and end -/

/-- **The mark at the start of a document**, on a line of its own. -/
theorem runs_mark (ht : Stands t ('-' :: '-' :: '-' :: '\n' :: rest) 0 ts allowed (-1) [])
    (hrest : Opens rest) :
    ∃ t', Stands t' rest 0 (.documentStart :: ts) true (-1) [] ∧ Runs t t' := by
  obtain ⟨i, l, adjacent, rfl⟩ := ht
  have hread : (block ⟨'-' :: '-' :: '-' :: '\n' :: rest, i, l, 0⟩ ts allowed none (-1) []
      adjacent).read? = some (block ⟨'\n' :: rest, i + 3, l, 3⟩ (.documentStart :: ts) false none
        (-1) [] adjacent) := rfl
  exact ⟨_, ⟨_, _, _, rfl⟩, .of_read rfl hread (by simp [block])
    (land?_newLine (n := 0) hrest (by rintro p ⟨⟩)) (by simp [block]; omega)⟩

/-- **The end of the text**, when all blocks have been closed. -/
theorem read?_end (ht : Stands t [] k ts allowed (-1) []) :
    ∃ e, t.close.read? = some e ∧ e.tokens = .streamEnd :: ts := by
  obtain ⟨i, l, adjacent, rfl⟩ := ht
  exact ⟨_, rfl, rfl⟩

end Layout

end SuiteRunner.Yaml
