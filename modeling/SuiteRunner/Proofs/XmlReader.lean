import SuiteRunner.Proofs.Paths
import SuiteRunner.Proofs.XmlGrammar

/-!
# Reading documents

A reader for the documents of the grammar.  It goes through the characters one by one and keeps the
elements that are open; references are looked up, and nothing is done to blanks.

* `Xml.decode?`, the text that a value spells;
* `Xml.Tag.read?`, what stands between `<` and `>`;
* `Xml.Reader`, the content read so far with the elements around it, and `Xml.Reader.step`;
* **`Xml.Reader.run_content`** — content is read as what it was written for, wherever it stands;
* **`Xml.read?_eq_some`** — so is a document, which stands for one root only
  (`Xml.Document.unique`).
-/

namespace SuiteRunner.Xml

/-! ### Values -/

/-- The character for which an entity stands. -/
def entity? (name : List Char) : Option Char := entities.lookup name

/-- A character that does not have to be written as a reference. -/
def IsPlain (c : Char) : Prop := IsChar c ∧ c ∉ ['<', '>', '&', '"']

instance (c : Char) : Decidable (IsPlain c) := inferInstanceAs (Decidable (_ ∧ _))

/-- What follows in a text, after the beginning `name` of a reference, if one has begun. -/
def decodeFrom? : Option (List Char) → List Char → Option (List Char)
  | none, [] => some []
  | some _, [] => none
  | none, c :: s =>
    if c = '&' then decodeFrom? (some []) s
    else if IsPlain c then (decodeFrom? none s).map (c :: ·)
    else none
  | some name, c :: s =>
    if c = ';' then
      match entity? name with
      | some d => (decodeFrom? none s).map (d :: ·)
      | none => none
    else decodeFrom? (some (name ++ [c])) s

/-- The text that a spelling stands for. -/
def decode? (s : List Char) : Option (List Char) := decodeFrom? none s

theorem CharSpelling.decodeFrom? {t s : List Char} {c : Char} (h : CharSpelling t c) :
    decodeFrom? none (t ++ s) = (decodeFrom? none s).map (c :: ·) := by
  cases h with
  | plain allowed unmarked =>
    have hamp : c ≠ '&' := by
      rintro rfl
      exact unmarked (by decide)
    rw [List.singleton_append, Xml.decodeFrom?, if_neg hamp, if_pos ⟨allowed, unmarked⟩]
  | reference name c known =>
    simp only [entities, List.mem_cons, Prod.mk.injEq, List.not_mem_nil, or_false] at known
    rcases known with ⟨rfl, rfl⟩ | ⟨rfl, rfl⟩ | ⟨rfl, rfl⟩ | ⟨rfl, rfl⟩ | ⟨rfl, rfl⟩ <;> rfl

theorem TextSpelling.decode? {s v : List Char} (h : TextSpelling s v) : decode? s = some v := by
  induction h with
  | nil => rfl
  | cons first rest ih =>
    rw [Xml.decode?] at ih ⊢
    rw [first.decodeFrom?, ih]
    rfl

theorem CharSpelling.unmarked {t : List Char} {c : Char} (h : CharSpelling t c) :
    '<' ∉ t ∧ '>' ∉ t ∧ '"' ∉ t := by
  cases h with
  | plain allowed unmarked =>
    simp only [List.mem_cons, List.not_mem_nil, or_false, not_or] at unmarked
    simp only [List.mem_singleton]
    exact ⟨Ne.symm unmarked.1, Ne.symm unmarked.2.1, Ne.symm unmarked.2.2.2⟩
  | reference name c known =>
    have hall : ∀ e ∈ entities, '<' ∉ '&' :: (e.1 ++ [';']) ∧ '>' ∉ '&' :: (e.1 ++ [';']) ∧
        '"' ∉ '&' :: (e.1 ++ [';']) := by decide
    exact hall (name, c) known

/-- A spelling has no signs of markup in it. -/
theorem TextSpelling.unmarked {s v : List Char} (h : TextSpelling s v) :
    '<' ∉ s ∧ '>' ∉ s ∧ '"' ∉ s := by
  induction h with
  | nil => simp
  | cons first rest ih =>
    have hfirst := first.unmarked
    simp only [List.mem_append, not_or]
    exact ⟨⟨hfirst.1, ih.1⟩, ⟨hfirst.2.1, ih.2.1⟩, ⟨hfirst.2.2, ih.2.2⟩⟩

/-! ### Tags -/

/-- What stands between `<` and `>`. -/
inductive Tag where
  | start (name : String) (attributes : List (String × String))
  | empty (name : String) (attributes : List (String × String))
  | stop (name : String)

/-- The name of an attribute, between blanks and an equals sign. -/
def attributeName? (key : List Char) : Option (List Char) :=
  let text := key.dropWhile fun c => IsSpace c
  if text.length < key.length ∧ text.getLast? = some '=' ∧ IsName text.dropLast then
    some text.dropLast
  else none

/-- The attributes that pieces between quotes spell. -/
def readAttributes? : List (List Char) → Option (List (String × String))
  | [] => none
  | [last] => if ∀ c ∈ last, IsSpace c then some [] else none
  | key :: value :: rest => do
    let name ← attributeName? key
    let value ← decode? value
    let rest ← readAttributes? rest
    return (String.ofList name, String.ofList value) :: rest

/-- A start tag, or the tag of an empty element. -/
def Tag.readStart? (t : List Char) (make : String → List (String × String) → Tag) : Option Tag :=
  let name := t.takeWhile fun c => IsNameChar c
  match readAttributes? (Text.splitOn '"' (t.dropWhile fun c => IsNameChar c)) with
  | some attributes =>
    if IsName name ∧ (attributes.map Prod.fst).Nodup then
      some (make (String.ofList name) attributes)
    else none
  | none => none

/-- The tag that a text spells. -/
def Tag.read? (t : List Char) : Option Tag :=
  if t.head? = some '/' then if IsName t.tail then some (.stop (String.ofList t.tail)) else none
  else if t.getLast? = some '/' then readStart? t.dropLast .empty
  else readStart? t .start

theorem attributeName?_eq {blank name : List Char} (some_blank : blank ≠ [])
    (spaces : ∀ c ∈ blank, IsSpace c) (named : IsName name) :
    attributeName? (blank ++ name ++ ['=']) = some name := by
  have htext : ((blank ++ name ++ ['=']).dropWhile fun c => IsSpace c) = name ++ ['='] := by
    rw [List.append_assoc, List.dropWhile_append_of_pos (by simpa using spaces)]
    cases name with
    | nil => exact named.elim
    | cons c s =>
      have hc : ¬ IsSpace c := (named.isNameChar c List.mem_cons_self).not_markup.2
      rw [List.cons_append, List.dropWhile_cons_of_neg (by simpa using hc)]
  have hlength : 0 < blank.length := List.length_pos_iff.2 some_blank
  rw [attributeName?]
  simp only [htext, List.getLast?_concat, List.dropLast_concat]
  rw [if_pos]
  refine ⟨?_, trivial, named⟩
  simp only [List.length_append, List.length_singleton]
  omega

theorem AttributeSpelling.readAttributes? {s : List Char} {attributes : List (String × String)}
    (h : AttributeSpelling s attributes) :
    readAttributes? (Text.splitOn '"' s) = some attributes := by
  rw [Text.splitOn_eq]
  induction h with
  | nil blank =>
    have hquote := notMem_of_isSpace blank (show ¬ IsSpace '"' by decide)
    rw [List.splitOn_eq_singleton hquote, Xml.readAttributes?, if_pos blank]
  | cons some_blank spaces named spelled others ih =>
    rename_i blank text s name value rest
    have hkey : '"' ∉ blank ++ name.toList ++ ['='] := by
      simp only [List.mem_append, List.mem_singleton, not_or]
      exact ⟨⟨notMem_of_isSpace spaces (by decide), named.notMem (by decide)⟩, by decide⟩
    have hsplit : (blank ++ name.toList ++ '=' :: '"' :: text ++ '"' :: s).splitOn '"' =
        (blank ++ name.toList ++ ['=']) :: text :: s.splitOn '"' := by
      rw [show blank ++ name.toList ++ '=' :: '"' :: text ++ '"' :: s =
          (blank ++ name.toList ++ ['=']) ++ '"' :: (text ++ '"' :: s) by simp,
        List.splitOn_append_cons_self, List.splitOn_append_cons_self,
        List.splitOn_eq_singleton hkey, List.splitOn_eq_singleton spelled.unmarked.2.2]
      rfl
    rw [hsplit, Xml.readAttributes?, attributeName?_eq some_blank spaces named, spelled.decode?, ih]
    simp only [bind, Option.bind, pure, String.ofList_toList]

/-- What follows the name of an element in its tag has no signs of markup in it, does not end with a
slash, and does not go on with the name. -/
theorem AttributeSpelling.outside {s : List Char} {attributes : List (String × String)}
    (h : AttributeSpelling s attributes) :
    '<' ∉ s ∧ '>' ∉ s ∧ s.getLast? ≠ some '/' ∧ ∀ c, s.head? = some c → ¬ IsNameChar c := by
  induction h with
  | nil blank =>
    refine ⟨notMem_of_isSpace blank (by decide), notMem_of_isSpace blank (by decide),
      fun hlast => ?_, fun c hc hname => ?_⟩
    · exact notMem_of_isSpace blank (by decide) (List.mem_of_getLast? hlast)
    · exact hname.not_markup.2 (blank c (List.mem_of_head? hc))
  | cons some_blank spaces named spelled others ih =>
    rename_i blank text s name value rest
    obtain ⟨hopen, hclose, -⟩ := spelled.unmarked
    refine ⟨?_, ?_, ?_, fun c hc hname => ?_⟩
    · simp only [List.mem_append, List.mem_cons, not_or]
      exact ⟨⟨⟨notMem_of_isSpace spaces (by decide), named.notMem (by decide)⟩, by decide,
        by decide, hopen⟩, by decide, ih.1⟩
    · simp only [List.mem_append, List.mem_cons, not_or]
      exact ⟨⟨⟨notMem_of_isSpace spaces (by decide), named.notMem (by decide)⟩, by decide,
        by decide, hclose⟩, by decide, ih.2.1⟩
    · rw [List.getLast?_append, List.getLast?_cons, Option.some_or]
      cases hs : s.getLast? with
      | none => decide
      | some c => exact hs ▸ ih.2.2.1
    · obtain ⟨b, bs, rfl⟩ := List.exists_cons_of_ne_nil some_blank
      simp only [List.cons_append, List.head?_cons, Option.some.injEq] at hc
      exact hname.not_markup.2 (hc ▸ spaces b List.mem_cons_self)

/-- The name ends where the attributes begin. -/
theorem TagSpelling.readStart? {t : List Char} {name : String} {attributes : List (String × String)}
    (h : TagSpelling t name attributes) (make : String → List (String × String) → Tag) :
    Tag.readStart? t make = some (make name attributes) := by
  obtain ⟨s, rfl, hs⟩ := h.spelled
  have hname : ∀ c ∈ name.toList, decide (IsNameChar c) = true := by
    simpa using h.named.isNameChar
  have hstop : s.takeWhile (fun c => IsNameChar c) = [] ∧
      s.dropWhile (fun c => IsNameChar c) = s := by
    cases s with
    | nil => exact ⟨rfl, rfl⟩
    | cons c s =>
      have hc : ¬ IsNameChar c := hs.outside.2.2.2 c rfl
      rw [List.takeWhile_cons_of_neg (by simpa using hc),
        List.dropWhile_cons_of_neg (by simpa using hc)]
      exact ⟨rfl, rfl⟩
  rw [Tag.readStart?]
  simp only [List.takeWhile_append_of_pos hname, List.dropWhile_append_of_pos hname, hstop.1,
    hstop.2, List.append_nil, hs.readAttributes?, String.ofList_toList]
  rw [if_pos ⟨h.named, h.unique⟩]

/-- A tag has no signs of markup in it, and has no slash at its ends. -/
theorem TagSpelling.outside {t : List Char} {name : String} {attributes : List (String × String)}
    (h : TagSpelling t name attributes) :
    '<' ∉ t ∧ '>' ∉ t ∧ t.head? ≠ some '/' ∧ t.getLast? ≠ some '/' := by
  obtain ⟨s, rfl, hs⟩ := h.spelled
  obtain ⟨hopen, hclose, hlast, -⟩ := hs.outside
  obtain ⟨first, others, hcons⟩ := List.exists_cons_of_ne_nil h.named.ne_nil
  refine ⟨?_, ?_, ?_, ?_⟩
  · rw [List.mem_append, not_or]
    exact ⟨h.named.notMem (by decide), hopen⟩
  · rw [List.mem_append, not_or]
    exact ⟨h.named.notMem (by decide), hclose⟩
  · rw [hcons, List.cons_append, List.head?_cons]
    intro hslash
    apply h.named.notMem (show '/' ∈ _ by decide)
    rw [hcons, ← Option.some.inj hslash]
    exact List.mem_cons_self
  · rw [List.getLast?_append]
    cases hend : s.getLast? with
    | none =>
      rw [Option.none_or]
      exact fun hslash => h.named.notMem (by decide) (List.mem_of_getLast? hslash)
    | some c =>
      rw [Option.some_or, ← hend]
      exact hlast

theorem TagSpelling.read?_start {t : List Char} {name : String}
    {attributes : List (String × String)} (h : TagSpelling t name attributes) :
    Tag.read? t = some (.start name attributes) := by
  obtain ⟨-, -, hhead, hlast⟩ := h.outside
  rw [Tag.read?, if_neg hhead, if_neg hlast, h.readStart?]

theorem TagSpelling.read?_empty {t : List Char} {name : String}
    {attributes : List (String × String)} (h : TagSpelling t name attributes) :
    Tag.read? (t ++ ['/']) = some (.empty name attributes) := by
  obtain ⟨-, -, hhead, -⟩ := h.outside
  have hfirst : (t ++ ['/']).head? ≠ some '/' := by
    obtain ⟨s, rfl, -⟩ := h.spelled
    obtain ⟨first, others, hcons⟩ := List.exists_cons_of_ne_nil h.named.ne_nil
    rw [hcons] at hhead ⊢
    exact hhead
  rw [Tag.read?, if_neg hfirst, List.getLast?_concat, if_pos rfl, List.dropLast_concat,
    h.readStart?]

theorem Tag.read?_stop {name : String} (named : IsName name.toList) :
    Tag.read? ('/' :: name.toList) = some (.stop name) := by
  rw [Tag.read?, List.head?_cons, if_pos rfl, List.tail_cons, if_pos named, String.ofList_toList]

/-! ### The reader -/

/-- An element that is open, with the content that was read before it. -/
structure Frame where
  name : String
  attributes : List (String × String)
  before : List Part

/-- What the reader is in the middle of: content, the name of a reference, or a tag. -/
inductive Mode where
  | content
  | reference (name : List Char)
  | tag (text : List Char)

/-- The content of the innermost open element so far, and the open elements from the innermost
outwards. -/
structure Reader where
  content : List Part
  around : List Frame
  mode : Mode

namespace Reader

/-- Adds a part to the content. -/
def put (r : Reader) (p : Part) : Reader := { r with content := r.content ++ [p], mode := .content }

/-- Opens an element, adds an empty one, or closes the innermost one under its own name. -/
def enter? (r : Reader) : Tag → Option Reader
  | .start name attributes => some ⟨[], ⟨name, attributes, r.content⟩ :: r.around, .content⟩
  | .empty name attributes => some (r.put (.element name attributes []))
  | .stop name =>
    match r.around with
    | frame :: around =>
      if frame.name = name then
        some ⟨frame.before ++ [.element frame.name frame.attributes r.content], around, .content⟩
      else none
    | [] => none

/-- Reads a character. -/
def step (r : Reader) (c : Char) : Option Reader :=
  match r.mode with
  | .content =>
    if c = '<' then some { r with mode := .tag [] }
    else if c = '&' then some { r with mode := .reference [] }
    else if IsPlain c then some (r.put (.char c))
    else none
  | .reference name =>
    if c = ';' then (entity? name).map fun d => r.put (.char d)
    else some { r with mode := .reference (name ++ [c]) }
  | .tag text =>
    if c = '>' then (Tag.read? text).bind r.enter?
    else if c = '<' then none
    else some { r with mode := .tag (text ++ [c]) }

/-- Reads characters one after another. -/
def run (r : Reader) (s : List Char) : Option Reader := s.foldlM step r

theorem run_append (r : Reader) (s t : List Char) : r.run (s ++ t) = (r.run s).bind (run · t) := by
  rw [run, List.foldlM_append]
  rfl

variable {content : List Part} {around : List Frame}

theorem run_char {t : List Char} {c : Char} (h : CharSpelling t c) :
    run ⟨content, around, .content⟩ t = some ⟨content ++ [.char c], around, .content⟩ := by
  cases h with
  | plain allowed unmarked =>
    have hopen : c ≠ '<' := by
      rintro rfl
      exact unmarked (by decide)
    have hamp : c ≠ '&' := by
      rintro rfl
      exact unmarked (by decide)
    have hplain : IsPlain c := ⟨allowed, unmarked⟩
    rw [run, List.foldlM_cons, step, if_neg hopen, if_neg hamp, if_pos hplain]
    rfl
  | reference name c known =>
    simp only [entities, List.mem_cons, Prod.mk.injEq, List.not_mem_nil, or_false] at known
    rcases known with ⟨rfl, rfl⟩ | ⟨rfl, rfl⟩ | ⟨rfl, rfl⟩ | ⟨rfl, rfl⟩ | ⟨rfl, rfl⟩ <;> rfl

/-- The characters of a tag are collected. -/
theorem run_collect {t : List Char} (text : List Char) (hopen : '<' ∉ t) (hclose : '>' ∉ t) :
    run ⟨content, around, .tag text⟩ t = some ⟨content, around, .tag (text ++ t)⟩ := by
  induction t generalizing text with
  | nil => rw [List.append_nil]; rfl
  | cons c t ih =>
    simp only [List.mem_cons, not_or] at hopen hclose
    have hstep : step ⟨content, around, .tag text⟩ c =
        some ⟨content, around, .tag (text ++ [c])⟩ := by
      simp only [step, if_neg (Ne.symm hclose.1), if_neg (Ne.symm hopen.1)]
    rw [run, List.foldlM_cons, hstep]
    have hrest := ih (text ++ [c]) hopen.2 hclose.2
    rw [run] at hrest
    rw [Option.bind_eq_bind, Option.bind_some, hrest, List.append_assoc, List.singleton_append]

/-- **A tag is entered when it has been read.** -/
theorem run_tag {t : List Char} (hopen : '<' ∉ t) (hclose : '>' ∉ t) :
    run ⟨content, around, .content⟩ ('<' :: (t ++ ['>'])) =
      (Tag.read? t).bind (enter? ⟨content, around, .tag t⟩) := by
  have hbegin : run ⟨content, around, .content⟩ ['<'] = some ⟨content, around, .tag []⟩ := rfl
  have hend : run ⟨content, around, .tag t⟩ ['>'] =
      (Tag.read? t).bind (enter? ⟨content, around, .tag t⟩) := by
    have hstep : step ⟨content, around, .tag t⟩ '>' =
        (Tag.read? t).bind (enter? ⟨content, around, .tag t⟩) := rfl
    rw [run, List.foldlM_cons, hstep]
    cases (Tag.read? t).bind (enter? ⟨content, around, .tag t⟩) <;> rfl
  rw [← List.singleton_append, run_append, hbegin, Option.bind_some, run_append,
    run_collect [] hopen hclose, Option.bind_some, List.nil_append, hend]

/-- **Content is read as what it was written for**, wherever it stands. -/
theorem run_content {s : List Char} {parts : List Part} (h : Content s parts) :
    run ⟨content, around, .content⟩ s = some ⟨content ++ parts, around, .content⟩ := by
  -- What stands below on the stack changes when an element is entered, so it is general.
  induction h generalizing content around with
  | nil => rw [List.append_nil]; rfl
  | char first rest ih =>
    rw [run_append, run_char first, Option.bind_some, ih, List.append_assoc, List.singleton_append]
  | empty tag rest ih =>
    rename_i t s name attributes parts
    obtain ⟨hopen, hclose, -⟩ := tag.outside
    have hsplit : '<' :: (t ++ '/' :: '>' :: s) = '<' :: ((t ++ ['/']) ++ ['>']) ++ s := by simp
    rw [hsplit, run_append, run_tag (by simpa using hopen) (by simpa using hclose), tag.read?_empty,
      Option.bind_some]
    show (some (Reader.mk (content ++ [.element name attributes []]) around .content)).bind _ = _
    rw [Option.bind_some, ih, List.append_assoc, List.singleton_append]
  | element tag inner rest ihInner ihRest =>
    rename_i t inside s name attributes content' parts
    obtain ⟨hopen, hclose, -⟩ := tag.outside
    -- The end tag meets the frame that the start tag has left, under the same name.
    have hstop : run ⟨content', ⟨name, attributes, content⟩ :: around, .content⟩
        ('<' :: ('/' :: name.toList ++ ['>'])) =
          some ⟨content ++ [.element name attributes content'], around, .content⟩ := by
      have hnameOpen : '<' ∉ name.toList := tag.named.notMem (by decide)
      have hnameClose : '>' ∉ name.toList := tag.named.notMem (by decide)
      rw [run_tag (by simpa using hnameOpen) (by simpa using hnameClose),
        Tag.read?_stop tag.named, Option.bind_some]
      simp only [enter?, if_true]
    have hsplit : '<' :: (t ++ '>' :: (inside ++ '<' :: '/' :: (name.toList ++ '>' :: s))) =
        '<' :: (t ++ ['>']) ++ (inside ++ ('<' :: ('/' :: name.toList ++ ['>']) ++ s)) := by simp
    rw [hsplit, run_append, run_tag hopen hclose, tag.read?_start, Option.bind_some]
    show (some (Reader.mk [] (⟨name, attributes, content⟩ :: around) .content)).bind _ = _
    rw [Option.bind_some, run_append, ihInner, Option.bind_some, List.nil_append, run_append, hstop,
      Option.bind_some, ihRest, List.append_assoc, List.singleton_append]

end Reader

/-! ### Documents -/

/-- Holds for blanks between markup. -/
def Part.isBlank : Part → Bool
  | .char c => IsSpace c
  | .element .. => false

/-- The root of a document: after the declaration, one element with blanks around it. -/
def read? (s : List Char) : Option Part :=
  if declaration <+: s then
    match Reader.run ⟨[], [], .content⟩ (s.drop declaration.length) with
    | some ⟨content, [], .content⟩ =>
      match content.filter fun p => !p.isBlank with
      | [.element name attributes content] => some (.element name attributes content)
      | _ => none
    | _ => none
  else none

theorem filter_blanks {s : List Char} (h : ∀ c ∈ s, IsSpace c) :
    (s.map Part.char).filter (fun p => !p.isBlank) = [] := by
  rw [List.filter_eq_nil_iff]
  intro p hp
  obtain ⟨c, hc, rfl⟩ := List.mem_map.1 hp
  simpa [Part.isBlank] using h c hc

/-- **A document is read as its root.** -/
theorem read?_eq_some {s : List Char} {root : Part} (h : Document s root) :
    read? s = some root := by
  obtain ⟨name, attributes, content, rfl, before, text, after, hblank, hcontent, rfl⟩ := h
  have hbefore : ∀ c ∈ before, IsSpace c := fun c hc => hblank c (List.mem_append_left _ hc)
  have hafter : ∀ c ∈ after, IsSpace c := fun c hc => hblank c (List.mem_append_right _ hc)
  have hbody := ((TextSpelling.of_spaces hbefore).content.append hcontent).append
    (TextSpelling.of_spaces hafter).content
  have hprefix : declaration <+: declaration ++ before ++ text ++ after :=
    ⟨before ++ text ++ after, by simp only [List.append_assoc]⟩
  have hdrop : (declaration ++ before ++ text ++ after).drop declaration.length =
      before ++ text ++ after := by
    rw [List.append_assoc, List.append_assoc, List.drop_left, List.append_assoc]
  rw [read?, if_pos hprefix, hdrop, Reader.run_content hbody]
  simp only [List.nil_append, List.filter_append, filter_blanks hbefore, filter_blanks hafter,
    List.append_nil]
  rfl

/-- Elements that overlap are no document. -/
example : (read? (declaration ++ "<a><b></b></a>".toList)).isSome = true ∧
    (read? (declaration ++ "<a><b></a></b>".toList)).isSome = false := by decide +kernel

/-- A document stands for one root only. -/
theorem Document.unique {s : List Char} {root other : Part} (h : Document s root)
    (hother : Document s other) : other = root := by
  have hread := read?_eq_some hother
  rw [read?_eq_some h] at hread
  exact (Option.some.inj hread).symm

end SuiteRunner.Xml
