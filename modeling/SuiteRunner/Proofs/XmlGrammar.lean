import SuiteRunner.Report.Xml

/-!
# The documents that are written are well formed

XML 1.0 gives a document by productions and by constraints of well-formedness.  This file states
those that elements, attributes and texts need, as a relation between a text and what it stands for,
and shows that an element is written as a text of this grammar.  The grammar has no comments,
processing instructions, CDATA sections and document types; values stand in double quotes, and `<`,
`>`, `&` and `"` are always written as references.

* `Xml.IsChar`, the characters of a document (production 2), with `Xml.isAllowed_iff`;
* `Xml.Part`, what content consists of, and `Xml.Content`, how it is written (production 43);
* `Xml.Document`, a declaration and a root (production 1);
* `Xml.cleaned`, a text without the characters that a document cannot have;
* **`Xml.Document.isChar`** — a document has only characters that are allowed;
* **`Xml.document_document`** — an element with names that are names, and with no attribute twice,
  is written as a document of what `Xml.reading` says.
-/

namespace SuiteRunner.Xml

/-! ### Characters -/

/-- Only the members of a list are looked at, although the characters are finitely many. -/
instance (p : Char → Prop) [DecidablePred p] (s : List Char) : Decidable (∀ c ∈ s, p c) :=
  List.decidableBAll p s

/-- Holds for characters with a number in one of the ranges. -/
def InRanges (ranges : List (Nat × Nat)) (c : Char) : Prop :=
  ∃ r ∈ ranges, r.1 ≤ c.toNat ∧ c.toNat ≤ r.2

instance (ranges : List (Nat × Nat)) (c : Char) : Decidable (InRanges ranges c) :=
  inferInstanceAs (Decidable (∃ r ∈ ranges, _ ∧ _))

/-- The characters of a document (production 2). -/
def IsChar (c : Char) : Prop :=
  InRanges [(0x9, 0x9), (0xA, 0xA), (0xD, 0xD), (0x20, 0xD7FF), (0xE000, 0xFFFD),
    (0x10000, 0x10FFFF)] c

instance (c : Char) : Decidable (IsChar c) := inferInstanceAs (Decidable (InRanges _ c))

/-- **The characters that are kept are those that a document may have.** -/
theorem isAllowed_iff (c : Char) : isAllowed c = true ↔ IsChar c := by
  have hvalid : c.toNat < 0xD800 ∨ 0xDFFF < c.toNat ∧ c.toNat < 0x110000 := c.valid
  have hle : ' ' ≤ c ↔ 0x20 ≤ c.toNat := Iff.rfl
  simp only [isAllowed, IsChar, InRanges, Bool.or_eq_true, Bool.and_eq_true, decide_eq_true_eq,
    bne_iff_ne, ne_eq, ← Char.toNat_inj, hle, List.mem_cons, List.not_mem_nil, or_false,
    exists_eq_or_imp, exists_eq_left]
  simp only [show '\t'.toNat = 0x9 from rfl, show '\n'.toNat = 0xA from rfl,
    show '\r'.toNat = 0xD from rfl, show '\uFFFE'.toNat = 0xFFFE from rfl,
    show '\uFFFF'.toNat = 0xFFFF from rfl]
  omega

/-- A text without the characters that a document cannot have. -/
def cleaned (s : String) : String := String.ofList (s.toList.filter fun c => IsChar c)

theorem toList_cleaned (s : String) : (cleaned s).toList = s.toList.filter fun c => IsChar c :=
  String.toList_ofList

/-- Blanks (production 3). -/
def IsSpace (c : Char) : Prop := InRanges [(0x20, 0x20), (0x9, 0x9), (0xD, 0xD), (0xA, 0xA)] c

instance (c : Char) : Decidable (IsSpace c) := inferInstanceAs (Decidable (InRanges _ c))

/-- The characters that a name can begin with (production 4): the colon, letters of either case, the
underscore, and what is not in ASCII. -/
def nameStarts : List (Nat × Nat) :=
  [(0x3A, 0x3A), (0x41, 0x5A), (0x5F, 0x5F), (0x61, 0x7A), (0xC0, 0xD6), (0xD8, 0xF6),
    (0xF8, 0x2FF), (0x370, 0x37D), (0x37F, 0x1FFF), (0x200C, 0x200D), (0x2070, 0x218F),
    (0x2C00, 0x2FEF), (0x3001, 0xD7FF), (0xF900, 0xFDCF), (0xFDF0, 0xFFFD), (0x10000, 0xEFFFF)]

/-- The characters of names (production 4a): also the hyphen, the full stop, digits, and signs that
are put to letters. -/
def IsNameChar (c : Char) : Prop :=
  InRanges (nameStarts ++ [(0x2D, 0x2D), (0x2E, 0x2E), (0x30, 0x39), (0xB7, 0xB7), (0x300, 0x36F),
    (0x203F, 0x2040)]) c

instance (c : Char) : Decidable (IsNameChar c) := inferInstanceAs (Decidable (InRanges _ c))

/-- The names of elements and attributes (production 5). -/
def IsName : List Char → Prop
  | [] => False
  | c :: s => InRanges nameStarts c ∧ ∀ d ∈ s, IsNameChar d

instance : DecidablePred IsName
  | [] => inferInstanceAs (Decidable False)
  | _ :: s => inferInstanceAs (Decidable (_ ∧ ∀ d ∈ s, IsNameChar d))

theorem IsSpace.isChar {c : Char} (h : IsSpace c) : IsChar c := by
  simp only [IsSpace, IsChar, InRanges, List.mem_cons, List.not_mem_nil, or_false,
    exists_eq_or_imp, exists_eq_left] at h ⊢
  omega

/-- What is not a blank does not stand among blanks. -/
theorem notMem_of_isSpace {s : List Char} {c : Char} (spaces : ∀ c ∈ s, IsSpace c)
    (h : ¬ IsSpace c) : c ∉ s := fun hmem => h (spaces c hmem)

theorem IsNameChar.isChar {c : Char} (h : IsNameChar c) : IsChar c := by
  simp only [IsNameChar, nameStarts, IsChar, InRanges, List.cons_append, List.nil_append,
    List.mem_cons, List.not_mem_nil, or_false, exists_eq_or_imp, exists_eq_left] at h ⊢
  omega

/-- A name does not have the signs of markup in it, nor blanks. -/
theorem IsNameChar.not_markup {c : Char} (h : IsNameChar c) :
    c ∉ ['<', '>', '"', '/', '='] ∧ ¬ IsSpace c := by
  refine ⟨?_, fun hspace => ?_⟩
  · intro hmem
    simp only [List.mem_cons, List.not_mem_nil, or_false] at hmem
    rcases hmem with rfl | rfl | rfl | rfl | rfl <;> exact absurd h (by decide)
  · simp only [IsNameChar, nameStarts, IsSpace, InRanges, List.cons_append, List.nil_append,
      List.mem_cons, List.not_mem_nil, or_false, exists_eq_or_imp, exists_eq_left] at h hspace
    omega

theorem IsName.isNameChar {name : List Char} (h : IsName name) : ∀ c ∈ name, IsNameChar c := by
  cases name with
  | nil => exact h.elim
  | cons c s =>
    intro d hd
    rcases List.mem_cons.1 hd with rfl | hd
    · obtain ⟨r, hr, hbounds⟩ := h.1
      exact ⟨r, List.mem_append_left _ hr, hbounds⟩
    · exact h.2 d hd

/-- Signs of markup do not stand in names. -/
theorem IsName.notMem {name : List Char} {c : Char} (h : IsName name)
    (markup : c ∈ ['<', '>', '"', '/', '=']) : c ∉ name := fun hmem =>
  (h.isNameChar c hmem).not_markup.1 markup

theorem IsName.ne_nil {name : List Char} (h : IsName name) : name ≠ [] := by
  rintro rfl
  exact h

/-! ### Texts -/

/-- The entities that need no declaration (section 4.6). -/
def entities : List (List Char × Char) :=
  [(['a', 'm', 'p'], '&'), (['l', 't'], '<'), (['g', 't'], '>'), (['q', 'u', 'o', 't'], '"'),
    (['a', 'p', 'o', 's'], '\'')]

/-- How a character is written: as it is, unless it is a sign of markup, or as a reference to an
entity (production 68). -/
inductive CharSpelling : List Char → Char → Prop
  | plain {c : Char} (allowed : IsChar c) (unmarked : c ∉ ['<', '>', '&', '"']) :
      CharSpelling [c] c
  | reference (name : List Char) (c : Char) (known : (name, c) ∈ entities) :
      CharSpelling ('&' :: (name ++ [';'])) c

/-- How a text is written, in content and in a value (productions 10 and 14). -/
inductive TextSpelling : List Char → List Char → Prop
  | nil : TextSpelling [] []
  | cons {t s v : List Char} {c : Char} (first : CharSpelling t c) (rest : TextSpelling s v) :
      TextSpelling (t ++ s) (c :: v)

/-- How attributes are written after the name of an element (productions 25 and 41). -/
inductive AttributeSpelling : List Char → List (String × String) → Prop
  | nil {s : List Char} (blank : ∀ c ∈ s, IsSpace c) : AttributeSpelling s []
  | cons {blank text s : List Char} {name value : String} {rest : List (String × String)}
      (some_blank : blank ≠ []) (spaces : ∀ c ∈ blank, IsSpace c) (named : IsName name.toList)
      (spelled : TextSpelling text value.toList) (others : AttributeSpelling s rest) :
      AttributeSpelling (blank ++ name.toList ++ '=' :: '"' :: text ++ '"' :: s)
        ((name, value) :: rest)

/-! ### Content -/

/-- What content consists of: characters, and elements with attributes and content. -/
inductive Part where
  | char (c : Char)
  | element (name : String) (attributes : List (String × String)) (content : List Part)

/-- The name and the attributes of a tag; no attribute is there twice. -/
structure TagSpelling (t : List Char) (name : String) (attributes : List (String × String)) :
    Prop where
  named : IsName name.toList
  spelled : ∃ s, t = name.toList ++ s ∧ AttributeSpelling s attributes
  unique : (attributes.map Prod.fst).Nodup

/-- How content is written: characters, tags of empty elements, and elements between a start tag and
an end tag of the same name (productions 39 to 44). -/
inductive Content : List Char → List Part → Prop
  | nil : Content [] []
  | char {t s : List Char} {c : Char} {parts : List Part} (first : CharSpelling t c)
      (rest : Content s parts) : Content (t ++ s) (.char c :: parts)
  | empty {t s : List Char} {name : String} {attributes : List (String × String)}
      {parts : List Part} (tag : TagSpelling t name attributes) (rest : Content s parts) :
      Content ('<' :: (t ++ '/' :: '>' :: s)) (.element name attributes [] :: parts)
  | element {t inside s : List Char} {name : String} {attributes : List (String × String)}
      {content parts : List Part} (tag : TagSpelling t name attributes)
      (inner : Content inside content) (rest : Content s parts) :
      Content ('<' :: (t ++ '>' :: (inside ++ '<' :: '/' :: (name.toList ++ '>' :: s))))
        (.element name attributes content :: parts)

/-- The declaration of a document (production 23). -/
def declaration : List Char := "<?xml version=\"1.0\" encoding=\"UTF-8\"?>".toList

/-- A document is a declaration and one element, with blanks around it (productions 1, 22
and 27). -/
def Document (s : List Char) (root : Part) : Prop :=
  ∃ name attributes content, root = .element name attributes content ∧
  ∃ before text after, (∀ c ∈ before ++ after, IsSpace c) ∧ Content text [root] ∧
    s = declaration ++ before ++ text ++ after

/-! ### Documents have the characters of documents -/

theorem CharSpelling.isChar {t : List Char} {c : Char} (h : CharSpelling t c) :
    ∀ d ∈ t, IsChar d := by
  cases h with
  | plain allowed unmarked =>
    intro d hd
    rw [List.mem_singleton] at hd
    exact hd ▸ allowed
  | reference name c known =>
    have hall : ∀ e ∈ entities, ∀ d ∈ '&' :: (e.1 ++ [';']), IsChar d := by decide
    exact hall (name, c) known

theorem TextSpelling.isChar {s v : List Char} (h : TextSpelling s v) : ∀ d ∈ s, IsChar d := by
  induction h with
  | nil => simp
  | cons first rest ih =>
    intro d hd
    rcases List.mem_append.1 hd with hd | hd
    · exact first.isChar d hd
    · exact ih d hd

theorem AttributeSpelling.isChar {s : List Char} {attributes : List (String × String)}
    (h : AttributeSpelling s attributes) : ∀ d ∈ s, IsChar d := by
  induction h with
  | nil blank => exact fun d hd => (blank d hd).isChar
  | cons some_blank spaces named spelled others ih =>
    intro d hd
    simp only [List.mem_append, List.mem_cons, List.append_assoc, List.cons_append] at hd
    rcases hd with hd | hd | rfl | rfl | hd | rfl | hd
    · exact (spaces d hd).isChar
    · exact (named.isNameChar d hd).isChar
    · decide
    · decide
    · exact spelled.isChar d hd
    · decide
    · exact ih d hd

theorem TagSpelling.isChar {t : List Char} {name : String} {attributes : List (String × String)}
    (h : TagSpelling t name attributes) : ∀ d ∈ t, IsChar d := by
  obtain ⟨s, rfl, hs⟩ := h.spelled
  intro d hd
  rcases List.mem_append.1 hd with hd | hd
  · exact (h.named.isNameChar d hd).isChar
  · exact hs.isChar d hd

theorem Content.isChar {s : List Char} {parts : List Part} (h : Content s parts) :
    ∀ d ∈ s, IsChar d := by
  induction h with
  | nil => simp
  | char first rest ih =>
    intro d hd
    rcases List.mem_append.1 hd with hd | hd
    · exact first.isChar d hd
    · exact ih d hd
  | empty tag rest ih =>
    intro d hd
    simp only [List.mem_append, List.mem_cons] at hd
    rcases hd with rfl | hd | rfl | rfl | hd
    · decide
    · exact tag.isChar d hd
    · decide
    · decide
    · exact ih d hd
  | element tag inner rest ihInner ihRest =>
    intro d hd
    simp only [List.mem_append, List.mem_cons] at hd
    rcases hd with rfl | hd | rfl | hd | rfl | rfl | hd | rfl | hd
    · decide
    · exact tag.isChar d hd
    · decide
    · exact ihInner d hd
    · decide
    · decide
    · exact (tag.named.isNameChar d hd).isChar
    · decide
    · exact ihRest d hd

/-- **A document has only characters that are allowed.** -/
theorem Document.isChar {s : List Char} {root : Part} (h : Document s root) :
    ∀ d ∈ s, IsChar d := by
  obtain ⟨-, -, -, -, before, text, after, hblank, hcontent, rfl⟩ := h
  have hdeclaration : ∀ d ∈ declaration, IsChar d := by decide
  intro d hd
  rcases List.mem_append.1 hd with hd | hd
  · rcases List.mem_append.1 hd with hd | hd
    · rcases List.mem_append.1 hd with hd | hd
      · exact hdeclaration d hd
      · exact (hblank d (List.mem_append_left _ hd)).isChar
    · exact hcontent.isChar d hd
  · exact (hblank d (List.mem_append_right _ hd)).isChar

/-! ### Composing content -/

theorem Content.append {s t : List Char} {parts more : List Part} (hs : Content s parts)
    (ht : Content t more) : Content (s ++ t) (parts ++ more) := by
  induction hs with
  | nil => exact ht
  | char first rest ih =>
    rw [List.append_assoc]
    exact .char first ih
  | empty tag rest ih =>
    rw [List.cons_append, List.append_assoc]
    exact .empty tag ih
  | element tag inner rest ihInner ihRest =>
    simp only [List.cons_append, List.append_assoc]
    exact .element tag inner ihRest

theorem TextSpelling.content {s v : List Char} (h : TextSpelling s v) :
    Content s (v.map .char) := by
  induction h with
  | nil => exact .nil
  | cons first rest ih => exact .char first ih

/-- Blanks are written as they are. -/
theorem TextSpelling.of_spaces {s : List Char} (h : ∀ c ∈ s, IsSpace c) : TextSpelling s s := by
  induction s with
  | nil => exact .nil
  | cons c s ih =>
    have hc := h c List.mem_cons_self
    have unmarked : c ∉ ['<', '>', '&', '"'] := by
      intro hmem
      simp only [List.mem_cons, List.not_mem_nil, or_false] at hmem
      rcases hmem with rfl | rfl | rfl | rfl <;> exact absurd hc (by decide)
    exact .cons (.plain hc.isChar unmarked) (ih fun d hd => h d (List.mem_cons_of_mem _ hd))

/-! ### What is written -/

/-- A character that is allowed is written as itself or as a reference. -/
theorem charSpelling_escapeChar {c : Char} (h : IsChar c) : CharSpelling (escapeChar c) c := by
  rw [escapeChar.eq_def]
  split
  · exact .reference ['a', 'm', 'p'] '&' (by decide)
  · exact .reference ['l', 't'] '<' (by decide)
  · exact .reference ['g', 't'] '>' (by decide)
  · exact .reference ['q', 'u', 'o', 't'] '"' (by decide)
  · exact .reference ['a', 'p', 'o', 's'] '\'' (by decide)
  · rename_i hamp hlt hgt hquot hapos
    rw [if_pos ((isAllowed_iff c).2 h)]
    refine .plain h ?_
    simp only [List.mem_cons, List.not_mem_nil, or_false, not_or]
    exact ⟨hlt, hgt, hamp, hquot⟩

/-- A character that is not allowed is not written. -/
theorem escapeChar_eq_nil {c : Char} (h : ¬ IsChar c) : escapeChar c = [] := by
  rw [escapeChar.eq_def]
  split
  · exact absurd (by decide) h
  · exact absurd (by decide) h
  · exact absurd (by decide) h
  · exact absurd (by decide) h
  · exact absurd (by decide) h
  · rw [if_neg (fun hallowed => h ((isAllowed_iff c).1 hallowed))]

/-- **An escaped text is a spelling of the cleaned one.** -/
theorem textSpelling_escape (s : String) :
    TextSpelling (escape s).toList (cleaned s).toList := by
  rw [toList_cleaned, escape, String.toList_ofList]
  induction s.toList with
  | nil => exact .nil
  | cons c s ih =>
    rw [List.flatMap_cons]
    by_cases h : IsChar c
    · rw [List.filter_cons_of_pos (by simpa using h)]
      exact .cons (charSpelling_escapeChar h) ih
    · rw [List.filter_cons_of_neg (by simpa using h), escapeChar_eq_nil h]
      exact ih

/-- A name, and attributes of which none is there twice, with names that are names. -/
structure ProperTag (name : String) (attributes : List (String × String)) : Prop where
  named : IsName name.toList
  attributesNamed : ∀ a ∈ attributes, IsName a.1.toList
  unique : (attributes.map Prod.fst).Nodup

mutual

/-- All names in an element are names, and no attribute is there twice. -/
def IsProper : Xml → Prop
  | leaf name attributes _ => ProperTag name attributes
  | branch name attributes children => ProperTag name attributes ∧ AllProper children

def AllProper : List Xml → Prop
  | [] => True
  | x :: xs => IsProper x ∧ AllProper xs

end

theorem allProper_iff {xs : List Xml} : AllProper xs ↔ ∀ x ∈ xs, x.IsProper := by
  induction xs with
  | nil => simp [AllProper]
  | cons x xs ih => rw [AllProper, ih, List.forall_mem_cons]

/-- The attributes that are read. -/
def cleanedValues (attributes : List (String × String)) : List (String × String) :=
  attributes.map fun a => (a.1, cleaned a.2)

mutual

/-- The element that is read where an element is written inside of `level` others. -/
def reading (level : Nat) : Xml → Part
  | leaf name attributes text =>
    .element name (cleanedValues attributes) ((cleaned (text.getD "")).toList.map .char)
  | branch name attributes children =>
    .element name (cleanedValues attributes)
      (.char '\n' :: (readings (level + 1) children ++ (indent level).toList.map .char))

/-- What is read where elements are written inside of `level` others. -/
def readings (level : Nat) : List Xml → List Part
  | [] => []
  | x :: xs => (indent level).toList.map .char ++ reading level x :: .char '\n' :: readings level xs

end

theorem isSpace_of_mem_indent {level : Nat} {c : Char} (h : c ∈ (indent level).toList) :
    IsSpace c := by
  rw [indent, String.toList_ofList] at h
  obtain rfl := List.eq_of_mem_replicate h
  decide

theorem content_indent (level : Nat) :
    Content (indent level).toList ((indent level).toList.map .char) :=
  (TextSpelling.of_spaces fun _ => isSpace_of_mem_indent).content

theorem content_newline {s : List Char} {parts : List Part} (h : Content s parts) :
    Content ('\n' :: s) (.char '\n' :: parts) := by
  have hnewline : CharSpelling ['\n'] '\n' := .plain (by decide) (by decide)
  exact .char hnewline h

theorem attributeSpelling_join {attributes : List (String × String)}
    (named : ∀ a ∈ attributes, IsName a.1.toList) :
    AttributeSpelling (String.join (attributes.map attributeText)).toList
      (cleanedValues attributes) := by
  rw [String.toList_join]
  induction attributes with
  | nil => exact .nil (by simp)
  | cons a attributes ih =>
    have htext : (attributeText a).toList =
        [' '] ++ a.1.toList ++ '=' :: '"' :: (escape a.2).toList ++ ['"'] := by
      simp [attributeText]
    have hrest := ih fun b hb => named b (List.mem_cons_of_mem _ hb)
    have hblank : ∀ c ∈ [' '], IsSpace c := by decide
    have hspelling := AttributeSpelling.cons (by simp) hblank (named a List.mem_cons_self)
      (textSpelling_escape a.2) hrest
    rw [List.map_cons, List.flatMap_cons, htext]
    simpa [cleanedValues] using hspelling

/-- The opening of an element is the start of a tag. -/
theorem tagSpelling_opening {name : String} {attributes : List (String × String)}
    (proper : ProperTag name attributes) :
    ∃ t, (opening name attributes).toList = '<' :: t ∧
      TagSpelling t name (cleanedValues attributes) := by
  refine ⟨name.toList ++ (String.join (attributes.map attributeText)).toList, ?_, ?_⟩
  · simp [opening]
  · refine ⟨proper.named, ⟨_, rfl, attributeSpelling_join proper.attributesNamed⟩, ?_⟩
    rw [cleanedValues, List.map_map]
    exact proper.unique

mutual

/-- An element is written on lines of its own, as content. -/
theorem content_render (level : Nat) : (x : Xml) → x.IsProper →
    ∃ s, (render level x).toList = (indent level).toList ++ s ++ ['\n'] ∧
      Content s [reading level x]
  | leaf name attributes none, proper => by
    obtain ⟨t, hopening, htag⟩ := tagSpelling_opening proper
    refine ⟨'<' :: (t ++ ['/', '>']), ?_, .empty htag .nil⟩
    simp [render, hopening]
  | leaf name attributes (some text), proper => by
    obtain ⟨t, hopening, htag⟩ := tagSpelling_opening proper
    refine ⟨_, ?_, .element htag (textSpelling_escape text).content .nil⟩
    simp [render, hopening]
  | branch name attributes children, proper => by
    obtain ⟨t, hopening, htag⟩ := tagSpelling_opening proper.1
    -- The children stand between a line end and the blanks in front of the end tag.
    have hinside := (content_renderAll (level + 1) children proper.2).append (content_indent level)
    refine ⟨_, ?_, .element htag (content_newline hinside) .nil⟩
    simp [render, hopening]

theorem content_renderAll (level : Nat) : (xs : List Xml) → AllProper xs →
    Content (renderAll level xs).toList (readings level xs)
  | [], _ => .nil
  | x :: xs, proper => by
    obtain ⟨s, hrender, hs⟩ := content_render level x proper.1
    have hrest := content_newline (content_renderAll level xs proper.2)
    have hlines := (content_indent level).append (hs.append hrest)
    rw [readings, renderAll, String.toList_append, hrender]
    simpa using hlines

end

theorem toList_declaration :
    "<?xml version=\"1.0\" encoding=\"UTF-8\"?>\n".toList = declaration ++ ['\n'] := by
  decide +kernel

/-- **A proper element is written as a document**, and this is what it reads as. -/
theorem document_document {x : Xml} (proper : x.IsProper) :
    Document (document x).toList (reading 0 x) := by
  obtain ⟨s, hrender, hs⟩ := content_render 0 x proper
  obtain ⟨name, attributes, content, hroot⟩ : ∃ name attributes content,
      reading 0 x = .element name attributes content := by
    cases x with
    | leaf name attributes text => exact ⟨_, _, _, by rw [reading]⟩
    | branch name attributes children => exact ⟨_, _, _, by rw [reading]⟩
  refine ⟨name, attributes, content, hroot, ['\n'], s, ['\n'], by decide, hs, ?_⟩
  calc (document x).toList
      = "<?xml version=\"1.0\" encoding=\"UTF-8\"?>\n".toList ++ (render 0 x).toList :=
        String.toList_append
    _ = declaration ++ ['\n'] ++ ((indent 0).toList ++ s ++ ['\n']) :=
        congr (congrArg (· ++ ·) toList_declaration) hrender
    _ = declaration ++ ['\n'] ++ s ++ ['\n'] := by simp [indent]

end SuiteRunner.Xml
