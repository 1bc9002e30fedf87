import Mathlib.Data.List.Forall2
import SuiteRunner.Proofs.XmlReader
import SuiteRunner.Report.Junit

/-!
# What a reader finds in the report of a suite

A report is a document, and its reader finds the results of the suite in it: one element for every
case, in order, with the texts of the result in attributes and in elements inside.

* `Xml.Part.elements`, `Xml.Part.attribute?` and `Xml.Part.text`, what is found in an element;
* `Junit.CaseReported`, what an element says about a result, and `Junit.SuiteReported`, what it says
  about a suite;
* **`Junit.render_reads_back`** — for all results, host names and files, the report is a well-formed
  document from which the suite is read back;
* `Junit.cleaned_eq_of_render_eq`, reports say which suite they are of;
* `Junit.unreported_texts`, the texts of a result that are not in the report.
-/

namespace SuiteRunner

/-! ### Elements that were read -/

namespace Xml

namespace Part

/-- The name of an element. -/
def tag : Part → String
  | .char _ => ""
  | .element name _ _ => name

/-- The value of an attribute. -/
def attribute? (p : Part) (key : String) : Option String :=
  match p with
  | .char _ => none
  | .element _ attributes _ => attributes.lookup key

/-- Everything inside of an element. -/
def inside : Part → List Part
  | .char _ => []
  | .element _ _ content => content

def isElement : Part → Bool
  | .char _ => false
  | .element .. => true

def char? : Part → Option Char
  | .char c => some c
  | .element .. => none

/-- The elements right inside of an element. -/
def elements (p : Part) : List Part := p.inside.filter isElement

/-- The elements of one name right inside of an element. -/
def called (p : Part) (name : String) : List Part := p.elements.filter fun e => e.tag = name

/-- The characters right inside of an element. -/
def text (p : Part) : String := String.ofList (p.inside.filterMap char?)

end Part

/-- The name of an element that is to be written. -/
def tag : Xml → String
  | leaf name _ _ => name
  | branch name _ _ => name

variable (level : Nat) (name : String) (attributes : List (String × String))

@[simp] theorem tag_reading (x : Xml) : (reading level x).tag = x.tag := by
  cases x <;> simp only [reading, Part.tag, tag]

theorem lookup_cleanedValues (key : String) :
    (cleanedValues attributes).lookup key = (attributes.lookup key).map cleaned := by
  induction attributes with
  | nil => rfl
  | cons a attributes ih =>
    rw [cleanedValues, List.map_cons, List.lookup_cons, List.lookup_cons]
    split
    · rfl
    · exact ih

/-- The value of an attribute is read without the characters that are not allowed. -/
@[simp] theorem attribute?_reading_leaf (text : Option String) (key : String) :
    (reading level (leaf name attributes text)).attribute? key =
      (attributes.lookup key).map cleaned := by
  rw [reading, Part.attribute?, lookup_cleanedValues]

@[simp] theorem attribute?_reading_branch (children : List Xml) (key : String) :
    (reading level (branch name attributes children)).attribute? key =
      (attributes.lookup key).map cleaned := by
  rw [reading, Part.attribute?, lookup_cleanedValues]

/-- The text of an element is read without the characters that are not allowed. -/
@[simp] theorem text_reading_leaf (text : Option String) :
    (reading level (leaf name attributes text)).text = cleaned (text.getD "") := by
  rw [reading, Part.text, Part.inside, List.filterMap_map]
  show String.ofList (List.filterMap some _) = _
  rw [List.filterMap_some, String.ofList_toList]

theorem filter_isElement_chars (s : List Char) : (s.map Part.char).filter Part.isElement = [] := by
  rw [List.filter_eq_nil_iff]
  intro p hp
  obtain ⟨c, -, rfl⟩ := List.mem_map.1 hp
  exact Bool.false_ne_true

@[simp] theorem elements_reading_leaf (text : Option String) :
    (reading level (leaf name attributes text)).elements = [] := by
  rw [reading, Part.elements, Part.inside, filter_isElement_chars]

theorem filter_isElement_readings (xs : List Xml) :
    (readings level xs).filter Part.isElement = xs.map (reading level) := by
  induction xs with
  | nil => rfl
  | cons x xs ih =>
    have helement : (reading level x).isElement = true := by
      cases x <;> rw [reading, Part.isElement]
    rw [readings, List.filter_append, filter_isElement_chars, List.nil_append,
      List.filter_cons_of_pos helement, List.filter_cons_of_neg (by simp [Part.isElement]), ih,
      List.map_cons]

/-- The elements inside of a branch are read one level further in. -/
@[simp] theorem elements_reading_branch (children : List Xml) :
    (reading level (branch name attributes children)).elements =
      children.map (reading (level + 1)) := by
  rw [reading, Part.elements, Part.inside, List.filter_cons_of_neg (by simp [Part.isElement]),
    List.filter_append, filter_isElement_readings, filter_isElement_chars, List.append_nil]

/-- A numeral has no characters that are not allowed. -/
theorem cleaned_toString (n : Nat) : cleaned (toString n) = toString n := by
  have hdigits : ∀ c ∈ (toString n).toList, IsChar c := by
    intro c hc
    rw [Nat.toString_eq_repr, Nat.toList_repr] at hc
    have hdigit := Nat.isDigit_of_mem_toDigits (by decide) (by decide) hc
    simp only [Char.isDigit, Bool.and_eq_true, decide_eq_true_eq, ge_iff_le,
      UInt32.le_iff_toNat_le] at hdigit
    have htoNat : c.toNat = c.val.toNat := rfl
    have hzero : '0'.val.toNat = 48 := rfl
    have hnine : '9'.val.toNat = 57 := rfl
    refine ⟨(0x20, 0xD7FF), by decide, ?_⟩
    show 0x20 ≤ c.toNat ∧ c.toNat ≤ 0xD7FF
    omega
  rw [cleaned, List.filter_eq_self.2 (by simpa using hdigits), String.ofList_toList]

end Xml

/-! ### What a report says -/

namespace Junit

open Xml

/-- The captured output of a case: the file can be read and is not empty, and the text is that of
its last 65536 bytes. -/
def Captured (files : FileTree) (path : Option String) (text : String) : Prop :=
  ∃ p bytes, path = some p ∧ files.readBytes p = .ok bytes ∧ bytes ≠ [] ∧
    text = String.ofList (Utf8.decodeLossy (bytes.drop (bytes.length - 65536)))

/-- The elements of a captured output: one with its text, or none where there is no such output. -/
structure OutputReported (files : FileTree) (path : Option String) (outputs : List Part) :
    Prop where
  present : ∀ text, Captured files path text → outputs.map Part.text = [cleaned text]
  absent : (∀ text, ¬ Captured files path text) → outputs = []

/-- What an element says about the result of a case. -/
structure CaseReported (files : FileTree) (r : CaseResult) (p : Part) : Prop where
  tag : p.tag = "testcase"
  name : p.attribute? "name" = some (cleaned r.name)
  className : p.attribute? "classname" = some (cleaned r.className)
  /-- There is nothing else in it than how the case ended and what it wrote. -/
  parts : ∀ e ∈ p.elements,
    e.tag ∈ ["failure", "error", "skipped", "system-out", "system-err"]
  failure : (p.called "failure").length = if r.status = .fail then 1 else 0
  error : (p.called "error").length = if r.status = .error then 1 else 0
  skipped : (p.called "skipped").length = if r.status = .skip then 1 else 0
  message : ∀ e ∈ p.called "failure" ++ p.called "error" ++ p.called "skipped",
    e.attribute? "message" = some (cleaned (r.message.getD ""))
  details : ∀ e ∈ p.called "failure" ++ p.called "error", e.text = cleaned (r.details.getD "")
  timeout : (∃ e ∈ p.elements, e.attribute? "type" = some "timeout") ↔
    r.status = .fail ∧ r.timedOut = true
  output : OutputReported files r.stdoutPath (p.called "system-out")
  errors : OutputReported files r.stderrPath (p.called "system-err")

/-- What an element says about a suite; the numbers are those of the elements inside. -/
structure SuiteReported (files : FileTree) (host : String) (s : SuiteSummary) (p : Part) :
    Prop where
  tag : p.tag = "testsuite"
  name : p.attribute? "name" = some (cleaned s.suite)
  hostname : p.attribute? "hostname" = some (cleaned host)
  cases : List.Forall₂ (CaseReported files) s.results p.elements
  tests : p.attribute? "tests" = some (toString p.elements.length)
  failures : p.attribute? "failures" =
    some (toString (p.elements.flatMap (·.called "failure")).length)
  errors : p.attribute? "errors" = some (toString (p.elements.flatMap (·.called "error")).length)
  skipped : p.attribute? "skipped" =
    some (toString (p.elements.flatMap (·.called "skipped")).length)

/-! ### Cases -/

variable (files : FileTree) (r : CaseResult) (path : Option String) (level : Nat) (name : String)

theorem captured?_eq_some {text : String} :
    captured? files path = some text ↔ Captured files path text := by
  cases path with
  | none => simp [captured?, Captured]
  | some p =>
    cases hbytes : files.readBytes p with
    | error fault => simp [captured?, Captured, hbytes]
    | ok bytes =>
      rw [captured?, Option.map_some, hbytes]
      show (if bytes.isEmpty then none else _) = some text ↔ _
      by_cases hempty : bytes = []
      · simp [hempty, Captured, hbytes]
      · rw [if_neg (by simpa using hempty), Option.some.injEq]
        constructor
        · rintro rfl
          exact ⟨p, bytes, rfl, hbytes, hempty, rfl⟩
        · rintro ⟨p', bytes', hp, hread, -, rfl⟩
          cases hp
          cases hbytes.symm.trans hread
          rfl

/-- What is written inside of the element of a case. -/
def parts : List Xml :=
  outcome r ++ capture files "system-out" r.stdoutPath ++ capture files "system-err" r.stderrPath

/-- How a case ended is said by one element, unless it passed. -/
theorem eq_of_mem_outcome {x : Xml} (h : x ∈ outcome r) :
    (r.status = .skip ∧ x = leaf "skipped" [("message", r.message.getD "")] none) ∨
    (r.status = .error ∧
      x = leaf "error" [("message", r.message.getD ""), ("type", "error")] r.details) ∨
    (r.status = .fail ∧
      x = leaf "failure" [("message", r.message.getD ""),
        ("type", if r.timedOut then "timeout" else "failure")] r.details) := by
  rw [outcome] at h
  split at h
  · cases h
  · exact .inl ⟨‹_›, List.mem_singleton.1 h⟩
  · exact .inr (.inl ⟨‹_›, List.mem_singleton.1 h⟩)
  · exact .inr (.inr ⟨‹_›, List.mem_singleton.1 h⟩)

theorem eq_of_mem_capture {x : Xml} (h : x ∈ capture files name path) :
    ∃ text, x = leaf name [] (some text) := by
  rw [capture] at h
  split at h
  · exact ⟨_, List.mem_singleton.1 h⟩
  · cases h

theorem tag_of_mem_outcome {x : Xml} (h : x ∈ outcome r) :
    x.tag ∈ ["failure", "error", "skipped"] := by
  rcases eq_of_mem_outcome r h with ⟨-, rfl⟩ | ⟨-, rfl⟩ | ⟨-, rfl⟩
  · show "skipped" ∈ _
    decide
  · show "error" ∈ _
    decide
  · show "failure" ∈ _
    decide

theorem tag_of_mem_capture {x : Xml} (h : x ∈ capture files name path) : x.tag = name := by
  obtain ⟨text, rfl⟩ := eq_of_mem_capture files path name h
  rfl

theorem filter_outcome (h : name ∉ ["failure", "error", "skipped"]) :
    (outcome r).filter (fun x => x.tag = name) = [] := by
  rw [List.filter_eq_nil_iff]
  intro x hx htag
  rw [decide_eq_true_eq] at htag
  exact h (htag ▸ tag_of_mem_outcome r hx)

theorem filter_capture_self :
    (capture files name path).filter (fun x => x.tag = name) = capture files name path := by
  rw [List.filter_eq_self]
  intro x hx
  exact decide_eq_true (tag_of_mem_capture files path name hx)

theorem filter_capture {other : String} (h : other ≠ name) :
    (capture files other path).filter (fun x => x.tag = name) = [] := by
  rw [List.filter_eq_nil_iff]
  intro x hx htag
  rw [tag_of_mem_capture files path other hx, decide_eq_true_eq] at htag
  exact h htag

theorem elements_caseElement :
    (reading level (caseElement files r)).elements =
      (parts files r).map (reading (level + 1)) := by
  rw [caseElement, parts]
  split
  · rename_i hnone
    rw [elements_reading_leaf, hnone, List.map_nil]
  · rw [elements_reading_branch]

theorem attribute?_caseElement (key : String) :
    (reading level (caseElement files r)).attribute? key =
      (List.lookup key [("name", r.name), ("classname", r.className),
        ("time", seconds r.durationMs)]).map cleaned := by
  rw [caseElement]
  split
  · rw [attribute?_reading_leaf]
  · rw [attribute?_reading_branch]

theorem called_caseElement :
    (reading level (caseElement files r)).called name =
      ((parts files r).filter fun x => x.tag = name).map (reading (level + 1)) := by
  rw [Part.called, elements_caseElement, List.filter_map]
  simp only [Function.comp_def, tag_reading]

/-- The captured outputs have names of their own. -/
theorem called_outcome (h : name ∈ ["failure", "error", "skipped"]) :
    (reading level (caseElement files r)).called name =
      ((outcome r).filter fun x => x.tag = name).map (reading (level + 1)) := by
  have hother (other : String) (hother : other ∉ ["failure", "error", "skipped"]) :
      other ≠ name := fun hname => hother (hname ▸ h)
  rw [called_caseElement, parts, List.filter_append, List.filter_append,
    filter_capture files _ _ (hother "system-out" (by decide)),
    filter_capture files _ _ (hother "system-err" (by decide)), List.append_nil, List.append_nil]

theorem called_systemOut :
    (reading level (caseElement files r)).called "system-out" =
      (capture files "system-out" r.stdoutPath).map (reading (level + 1)) := by
  rw [called_caseElement, parts, List.filter_append, List.filter_append,
    filter_outcome r _ (by decide), filter_capture_self, filter_capture files _ _ (by decide),
    List.nil_append, List.append_nil]

theorem called_systemErr :
    (reading level (caseElement files r)).called "system-err" =
      (capture files "system-err" r.stderrPath).map (reading (level + 1)) := by
  rw [called_caseElement, parts, List.filter_append, List.filter_append,
    filter_outcome r _ (by decide), filter_capture_self, filter_capture files _ _ (by decide),
    List.nil_append, List.nil_append]

theorem outputReported_capture :
    OutputReported files path ((capture files name path).map (reading level)) := by
  rw [capture]
  split
  · rename_i text htext
    refine ⟨fun other hother => ?_, fun hnone => ?_⟩
    · rw [← captured?_eq_some, htext] at hother
      cases hother
      rw [List.map_singleton, List.map_singleton, text_reading_leaf, Option.getD_some]
    · exact absurd ((captured?_eq_some files path).1 htext) (hnone text)
  · rename_i htext
    refine ⟨fun other hother => ?_, fun _ => rfl⟩
    rw [← captured?_eq_some, htext] at hother
    cases hother

/-- The elements of one ending are among those of the ending. -/
theorem exists_of_mem_called {e : Part} (h : name ∈ ["failure", "error", "skipped"])
    (he : e ∈ (reading level (caseElement files r)).called name) :
    ∃ x ∈ outcome r, x.tag = name ∧ e = reading (level + 1) x := by
  rw [called_outcome files r level name h] at he
  obtain ⟨x, hx, rfl⟩ := List.mem_map.1 he
  obtain ⟨hmem, htag⟩ := List.mem_filter.1 hx
  rw [decide_eq_true_eq] at htag
  exact ⟨x, hmem, htag, rfl⟩

theorem message_of_mem_outcome {x : Xml} (h : x ∈ outcome r) :
    (reading level x).attribute? "message" = some (cleaned (r.message.getD "")) := by
  rcases eq_of_mem_outcome r h with ⟨-, rfl⟩ | ⟨-, rfl⟩ | ⟨-, rfl⟩
  · rw [attribute?_reading_leaf]
    rfl
  · rw [attribute?_reading_leaf]
    rfl
  · rw [attribute?_reading_leaf]
    rfl

theorem details_of_mem_outcome {x : Xml} (h : x ∈ outcome r) (ran : x.tag ≠ "skipped") :
    (reading level x).text = cleaned (r.details.getD "") := by
  rcases eq_of_mem_outcome r h with ⟨-, rfl⟩ | ⟨-, rfl⟩ | ⟨-, rfl⟩
  · exact absurd rfl ran
  · exact text_reading_leaf ..
  · exact text_reading_leaf ..

/-- The elements that a case ends with have a type, and it is that of a timeout for failures that
are timeouts only. -/
theorem timeout_iff_of_mem_outcome {x : Xml} (h : x ∈ outcome r) :
    (reading level x).attribute? "type" = some "timeout" ↔
      r.status = .fail ∧ r.timedOut = true := by
  have herror : cleaned "error" ≠ "timeout" := by decide +kernel
  have hfailure : cleaned "failure" ≠ "timeout" := by decide +kernel
  have htimeout : cleaned "timeout" = "timeout" := by decide +kernel
  rcases eq_of_mem_outcome r h with ⟨hstatus, rfl⟩ | ⟨hstatus, rfl⟩ | ⟨hstatus, rfl⟩
  · rw [attribute?_reading_leaf, hstatus]
    show none = some "timeout" ↔ _
    simp
  · rw [attribute?_reading_leaf, hstatus]
    show some (cleaned "error") = some "timeout" ↔ _
    simp [herror]
  · rw [attribute?_reading_leaf, hstatus]
    cases r.timedOut with
    | false =>
      show some (cleaned "failure") = some "timeout" ↔ _
      simp [hfailure]
    | true =>
      show some (cleaned "timeout") = some "timeout" ↔ _
      simp [htimeout]

/-- A captured output has no attributes. -/
theorem attribute?_of_mem_capture {x : Xml} (key : String) (h : x ∈ capture files name path) :
    (reading level x).attribute? key = none := by
  obtain ⟨text, rfl⟩ := eq_of_mem_capture files path name h
  rw [attribute?_reading_leaf]
  rfl

/-- **The element of a case says what the result is.** -/
theorem caseReported : CaseReported files r (reading level (caseElement files r)) where
  tag := by
    rw [tag_reading, caseElement]
    split <;> rfl
  name := attribute?_caseElement files r level "name"
  className := attribute?_caseElement files r level "classname"
  parts := by
    rw [elements_caseElement]
    intro e he
    obtain ⟨x, hx, rfl⟩ := List.mem_map.1 he
    rw [tag_reading]
    rw [parts, List.mem_append, List.mem_append] at hx
    rcases hx with (hx | hx) | hx
    · exact List.mem_append_left ["system-out", "system-err"] (tag_of_mem_outcome r hx)
    · rw [tag_of_mem_capture files _ _ hx]
      decide
    · rw [tag_of_mem_capture files _ _ hx]
      decide
  failure := by
    rw [called_outcome files r level _ (by decide), outcome]
    cases r.status <;> rfl
  error := by
    rw [called_outcome files r level _ (by decide), outcome]
    cases r.status <;> rfl
  skipped := by
    rw [called_outcome files r level _ (by decide), outcome]
    cases r.status <;> rfl
  message := by
    intro e he
    obtain ⟨x, hx, rfl⟩ : ∃ x ∈ outcome r, e = reading (level + 1) x := by
      rw [List.mem_append, List.mem_append] at he
      rcases he with (he | he) | he
      · obtain ⟨x, hx, -, hread⟩ := exists_of_mem_called files r level _ (by decide) he
        exact ⟨x, hx, hread⟩
      · obtain ⟨x, hx, -, hread⟩ := exists_of_mem_called files r level _ (by decide) he
        exact ⟨x, hx, hread⟩
      · obtain ⟨x, hx, -, hread⟩ := exists_of_mem_called files r level _ (by decide) he
        exact ⟨x, hx, hread⟩
    exact message_of_mem_outcome r _ hx
  details := by
    intro e he
    rcases List.mem_append.1 he with he | he
    · obtain ⟨x, hx, htag, rfl⟩ := exists_of_mem_called files r level _ (by decide) he
      exact details_of_mem_outcome r _ hx (by rw [htag]; decide)
    · obtain ⟨x, hx, htag, rfl⟩ := exists_of_mem_called files r level _ (by decide) he
      exact details_of_mem_outcome r _ hx (by rw [htag]; decide)
  timeout := by
    rw [elements_caseElement]
    constructor
    · rintro ⟨e, he, htype⟩
      obtain ⟨x, hx, rfl⟩ := List.mem_map.1 he
      rw [parts, List.mem_append, List.mem_append] at hx
      rcases hx with (hx | hx) | hx
      · exact (timeout_iff_of_mem_outcome r _ hx).1 htype
      · rw [attribute?_of_mem_capture files _ _ _ _ hx] at htype
        cases htype
      · rw [attribute?_of_mem_capture files _ _ _ _ hx] at htype
        cases htype
    · intro hend
      have hx : leaf "failure" [("message", r.message.getD ""),
          ("type", if r.timedOut then "timeout" else "failure")] r.details ∈ outcome r := by
        rw [outcome, hend.1]
        exact List.mem_singleton_self _
      refine ⟨_, List.mem_map.2 ⟨_, ?_, rfl⟩, (timeout_iff_of_mem_outcome r _ hx).2 hend⟩
      rw [parts, List.append_assoc]
      exact List.mem_append_left _ hx
  output := by
    rw [called_systemOut]
    exact outputReported_capture files _ _ _
  errors := by
    rw [called_systemErr]
    exact outputReported_capture files _ _ _

/-! ### Suites -/

/-- Whether a tag is proper is said by the names of its attributes. -/
theorem properTag_of_keys {attributes : List (String × String)} {keys : List String}
    (hkeys : attributes.map Prod.fst = keys) (named : IsName name.toList)
    (keysNamed : ∀ key ∈ keys, IsName key.toList) (unique : keys.Nodup) :
    ProperTag name attributes where
  named := named
  attributesNamed := fun a ha => keysNamed a.1 (hkeys ▸ List.mem_map_of_mem ha)
  unique := hkeys ▸ unique

theorem isProper_of_mem_outcome {x : Xml} (h : x ∈ outcome r) : x.IsProper := by
  have hkeys {attributes : List (String × String)} {tag : String}
      (named : tag ∈ ["failure", "error", "skipped"])
      (h : attributes.map Prod.fst = ["message"] ∨ attributes.map Prod.fst = ["message", "type"]) :
      ProperTag tag attributes := by
    have hnamed : ∀ tag ∈ ["failure", "error", "skipped"], IsName tag.toList := by decide
    rcases h with h | h
    · exact properTag_of_keys tag h (hnamed tag named) (by decide) (by decide)
    · exact properTag_of_keys tag h (hnamed tag named) (by decide) (by decide)
  rcases eq_of_mem_outcome r h with ⟨-, rfl⟩ | ⟨-, rfl⟩ | ⟨-, rfl⟩
  · exact hkeys (by decide) (.inl rfl)
  · exact hkeys (by decide) (.inr rfl)
  · exact hkeys (by decide) (.inr rfl)

theorem isProper_of_mem_capture {x : Xml} (named : IsName name.toList)
    (h : x ∈ capture files name path) : x.IsProper := by
  obtain ⟨text, rfl⟩ := eq_of_mem_capture files path name h
  exact properTag_of_keys name rfl named (by decide) (by decide)

theorem isProper_caseElement : (caseElement files r).IsProper := by
  have htag : ProperTag "testcase"
      [("name", r.name), ("classname", r.className), ("time", seconds r.durationMs)] :=
    properTag_of_keys _ (show List.map Prod.fst _ = ["name", "classname", "time"] from rfl)
      (by decide) (by decide) (by decide)
  have hparts : ∀ x ∈ parts files r, x.IsProper := by
    intro x hx
    rw [parts, List.mem_append, List.mem_append] at hx
    rcases hx with (hx | hx) | hx
    · exact isProper_of_mem_outcome r hx
    · exact isProper_of_mem_capture files _ _ (by decide) hx
    · exact isProper_of_mem_capture files _ _ (by decide) hx
  rw [caseElement]
  split
  · exact htag
  · exact ⟨htag, allProper_iff.2 hparts⟩

variable (host : String) (s : SuiteSummary)

theorem isProper_suiteElement : (suiteElement files host s).IsProper := by
  refine ⟨properTag_of_keys _ (show List.map Prod.fst _ = ["name", "tests", "failures", "errors",
    "skipped", "time", "timestamp", "hostname"] from rfl) (by decide) (by decide) (by decide), ?_⟩
  rw [allProper_iff]
  intro x hx
  obtain ⟨r, -, rfl⟩ := List.mem_map.1 hx
  exact isProper_caseElement files r

theorem elements_suiteElement :
    (reading level (suiteElement files host s)).elements =
      s.results.map fun r => reading (level + 1) (caseElement files r) := by
  rw [suiteElement, elements_reading_branch, List.map_map]
  rfl

theorem forall₂_caseReported (results : List CaseResult) :
    List.Forall₂ (CaseReported files) results
      (results.map fun r => reading level (caseElement files r)) := by
  induction results with
  | nil => exact .nil
  | cons r results ih => exact .cons (caseReported files r level) ih

/-- **The elements of an ending are as many as the results with its status.** -/
theorem length_flatMap_called {status : Status} {results : List CaseResult} {ps : List Part}
    (one : ∀ r p, CaseReported files r p →
      (p.called name).length = if r.status = status then 1 else 0)
    (h : List.Forall₂ (CaseReported files) results ps) :
    (ps.flatMap fun p => p.called name).length = Counts.withStatus status results := by
  induction h with
  | nil => rfl
  | cons hp hps ih =>
    rename_i r p results ps
    rw [List.flatMap_cons, List.length_append, ih, one r p hp]
    rw [Counts.withStatus, Counts.withStatus]
    by_cases hstatus : r.status = status
    · rw [if_pos hstatus, List.filter_cons_of_pos (by simpa using hstatus), List.length_cons,
        Nat.add_comm]
    · rw [if_neg hstatus, List.filter_cons_of_neg (by simpa using hstatus), Nat.zero_add]

/-- A number of results is read back from the attribute that it is written in. -/
theorem attribute?_suiteElement_number {key : String} {n m : Nat}
    (h : (reading level (suiteElement files host s)).attribute? key =
      some (cleaned (toString n))) (same : n = m) :
    (reading level (suiteElement files host s)).attribute? key = some (toString m) := by
  rw [h, cleaned_toString, same]

/-- **The element of a suite says what the suite is**, if its counts are those of its results. -/
theorem suiteReported (counted : s.counts = Counts.ofResults s.results) :
    SuiteReported files host s (reading level (suiteElement files host s)) := by
  have hcases : List.Forall₂ (CaseReported files) s.results
      (reading level (suiteElement files host s)).elements := by
    rw [elements_suiteElement]
    exact forall₂_caseReported files (level + 1) s.results
  have hattribute (key : String) := attribute?_reading_branch level "testsuite" [
    ("name", s.suite),
    ("tests", toString s.counts.total),
    ("failures", toString s.counts.failed),
    ("errors", toString s.counts.errors),
    ("skipped", toString s.counts.skipped),
    ("time", seconds s.counts.durationMs),
    ("timestamp", s.startedAt.secondsText),
    ("hostname", host)] (s.results.map (caseElement files)) key
  exact {
    tag := tag_reading level _
    name := hattribute "name"
    hostname := hattribute "hostname"
    cases := hcases
    tests := by
      refine attribute?_suiteElement_number files level host s (hattribute "tests") ?_
      rw [counted]
      exact hcases.length_eq
    failures := by
      refine attribute?_suiteElement_number files level host s (hattribute "failures") ?_
      rw [counted]
      exact (length_flatMap_called files "failure" (fun _ _ h => h.failure) hcases).symm
    errors := by
      refine attribute?_suiteElement_number files level host s (hattribute "errors") ?_
      rw [counted]
      exact (length_flatMap_called files "error" (fun _ _ h => h.error) hcases).symm
    skipped := by
      refine attribute?_suiteElement_number files level host s (hattribute "skipped") ?_
      rw [counted]
      exact (length_flatMap_called files "skipped" (fun _ _ h => h.skipped) hcases).symm }

/-- A report is a document, with the element of the suite inside of its root. -/
theorem document_render :
    Document (render files host s).toList
      (reading 0 (branch "testsuites" [] [suiteElement files host s])) := by
  have hproper : (branch "testsuites" [] [suiteElement files host s]).IsProper := by
    refine ⟨properTag_of_keys _ rfl (by decide) (by decide) (by decide), ?_⟩
    rw [allProper_iff]
    intro x hx
    rw [List.mem_singleton.1 hx]
    exact isProper_suiteElement files host s
  exact document_document hproper

/-- **A report is a well-formed document with nothing but allowed characters, and the suite is read
back from it**: it has one root, with one element for the suite in it, and this has one element for
each result, in order. -/
theorem render_reads_back (files : FileTree) (host suite className : String) (startedAt : Instant)
    (results : List CaseResult) :
    let s := SuiteSummary.ofResults suite className startedAt results
    let text := (render files host s).toList
    (∀ c ∈ text, IsChar c) ∧
    ∃ root, Document text root ∧ (∀ other, Document text other → other = root) ∧
      read? text = some root ∧ root.tag = "testsuites" ∧
      ∃ element, root.elements = [element] ∧ SuiteReported files host s element := by
  intro s text
  have hdocument : Document text (reading 0 _) := document_render files host s
  refine ⟨hdocument.isChar, _, hdocument, fun _ => hdocument.unique, read?_eq_some hdocument,
    tag_reading 0 _, reading 1 (suiteElement files host s), ?_, suiteReported files 1 host s rfl⟩
  rw [elements_reading_branch]
  rfl

/-- The name of a suite can be read from its report, so reports of suites with different names are
different. -/
theorem cleaned_eq_of_render_eq {files files' : FileTree} {host host' : String}
    {s s' : SuiteSummary} (h : render files host s = render files' host' s') :
    cleaned s.suite = cleaned s'.suite := by
  have hname (files : FileTree) (host : String) (s : SuiteSummary) :
      (reading 0 (branch "testsuites" [] [suiteElement files host s])).elements.map
        (·.attribute? "name") = [some (cleaned s.suite)] := by
    rw [elements_reading_branch, List.map_singleton, List.map_singleton, suiteElement,
      attribute?_reading_branch]
    rfl
  have hdocument := document_render files host s
  rw [h] at hdocument
  have hsame := hname files host s
  rw [(document_render files' host' s').unique hdocument, hname] at hsame
  exact (Option.some.inj (List.singleton_inj.1 hsame)).symm

/-- A suite with one result, with a message and details. -/
def oneResult (status : Status) (message details : String) : SuiteSummary :=
  SuiteSummary.ofResults "s" "s" ⟨0, 0⟩
    [{ CaseResult.plain "s" "s" "c" status with message := some message, details := some details }]

/-- The details of a skipped case, and the message and the details of a passed one, are not in the
report: no way of reading gets them back. -/
theorem unreported_texts :
    (¬ ∃ read : String → String, ∀ details,
      read (render ⟨[], []⟩ "h" (oneResult .skip "m" details)) = cleaned details) ∧
    (¬ ∃ read : String → String, ∀ message,
      read (render ⟨[], []⟩ "h" (oneResult .pass message "d")) = cleaned message) ∧
    (¬ ∃ read : String → String, ∀ details,
      read (render ⟨[], []⟩ "h" (oneResult .pass "m" details)) = cleaned details) := by
  have hne : cleaned "a" ≠ cleaned "b" := by decide +kernel
  refine ⟨fun ⟨read, h⟩ => hne ?_, fun ⟨read, h⟩ => hne ?_, fun ⟨read, h⟩ => hne ?_⟩
  · exact (h "a").symm.trans (h "b")
  · exact (h "a").symm.trans (h "b")
  · exact (h "a").symm.trans (h "b")

end Junit

end SuiteRunner
