import SuiteRunner.Proofs.SavedRuns
import SuiteRunner.Proofs.ScalarTypes
import SuiteRunner.Proofs.YamlReading

/-!
# What the file formats keep of a document

Both file formats give back the names, the lists and the objects of a document, and its scalars to a
reader that asks for their types.  They differ where a scalar is read without a type: JSON keeps it,
and YAML does not keep the type of what stands without quotation marks.

* `DocumentFormat`, with the two formats `json` and `yaml`, and `DocumentFormat.Keeps`, the texts
  that are texts by themselves;
* **`DocumentFormat.keeps_yaml`** — these are in YAML the texts that are not misread;
* `DocumentFormat.ofNode?_object` and `DocumentFormat.list?_list`, the readers of objects and lists,
  for every format.
-/

namespace SuiteRunner

/-! ### Formats -/

/-- What a file format makes of the documents that are printed in it.  A text comes back as a text
where its reader asks for one, but by itself it may have another type. -/
structure DocumentFormat where
  /-- The document as it is read back. -/
  node : Value → Node
  text?_text (s : String) : (node (.text s)).text? = some s
  isNull?_text (s : String) : (node (.text s)).isNull? = some false
  isNull?_bool (b : Bool) : (node (.bool b)).isNull? = some false
  isNull?_int (n : Int) : (node (.int n)).isNull? = some false
  scalar?_bool (b : Bool) : (node (.bool b)).scalar? = some (.bool b)
  scalar?_int {n : Int} (h : Node.fits64 n = true) : (node (.int n)).scalar? = some (.int n)
  /-- A text that has another type by itself is neither read as a text nor as null. -/
  scalar?_text (s : String) : (node (.text s)).scalar? = some (.text s) ∨
    ∀ n ∈ (node (.text s)).scalar?, n.text? = none ∧ n.isNull? = some false
  untyped?_bool (depth : Nat) (b : Bool) :
    (node (.bool b)).untyped? depth = (node (.bool b)).scalar?
  untyped?_int (depth : Nat) (n : Int) : (node (.int n)).untyped? depth = (node (.int n)).scalar?
  untyped?_text (depth : Nat) (s : String) :
    (node (.text s)).untyped? depth = (node (.text s)).scalar?
  node_list (vs : List Value) : node (.list vs) = .list (vs.map node)
  node_object (ms : List (String × Value)) : ∃ es, node (.object ms) = .map es ∧
    Record.fieldsOf? es = some (ms.map fun m => (m.1, node m.2))

namespace DocumentFormat

/-- The text is a text by itself. -/
def Keeps (format : DocumentFormat) (s : String) : Prop :=
  (format.node (.text s)).scalar? = some (.text s)

/-- JSON keeps the types of all scalars. -/
def json : DocumentFormat where
  node := Value.node
  text?_text _ := rfl
  isNull?_text _ := rfl
  isNull?_bool _ := rfl
  isNull?_int _ := rfl
  scalar?_bool _ := rfl
  scalar?_int _ := rfl
  scalar?_text _ := .inl rfl
  untyped?_bool _ _ := by simp [Value.node, Node.untyped?, Node.scalar?]
  untyped?_int _ _ := by simp [Value.node, Node.untyped?, Node.scalar?]
  untyped?_text _ _ := by simp [Value.node, Node.untyped?, Node.scalar?]
  node_list vs := by rw [Value.node, Value.nodes_eq_map]
  node_object ms := ⟨_, rfl, Record.fieldsOf?_entries ms⟩

theorem keeps_json (s : String) : json.Keeps s := rfl

/-- YAML keeps no type of what stands without quotation marks. -/
def yaml : DocumentFormat where
  node v := v.node.written
  text?_text s := by
    rw [Value.node, Node.written]
    split <;> rfl
  isNull?_text s := by
    rw [Value.node, Node.written]
    split
    · rfl
    · rename_i hquotes
      have hnull : ∀ w, Yaml.needsQuotes w = true → s ≠ w := fun w hw h => hquotes (h ▸ hw)
      simp [Node.isNull?, hnull "~" (by decide), hnull "null" (by decide)]
  isNull?_bool b := by cases b <;> rfl
  isNull?_int n := by
    have hword := Node.toString_ne_word n
    rw [Value.node, Node.written, Node.isNull?, decide_eq_false (hword "~" (by decide)),
      decide_eq_false (hword "null" (by decide)), Bool.or_false]
  scalar?_bool b := by cases b <;> rfl
  scalar?_int h := Node.ofPlain?_toString h
  scalar?_text s := by
    rw [Value.node, Node.written]
    split
    · exact .inl rfl
    · rename_i hquotes
      rcases Yaml.ofPlain?_bare (Bool.eq_false_iff.2 hquotes) with ⟨-, htext⟩ | ⟨-, hother⟩
      · exact .inl htext
      · exact .inr hother
  untyped?_bool _ _ := by simp [Value.node, Node.written, Node.untyped?, Node.scalar?]
  untyped?_int _ _ := by simp [Value.node, Node.written, Node.untyped?, Node.scalar?]
  untyped?_text _ s := by
    rw [Value.node, Node.written]
    split <;> simp [Node.untyped?, Node.scalar?]
  node_list vs := by
    rw [Value.node, Value.nodes_eq_map, Node.written, Node.writtenAll_eq_map, List.map_map]
    rfl
  node_object ms := by
    refine ⟨_, by rw [Value.node, Node.written], ?_⟩
    induction ms with
    | nil => rfl
    | cons m ms ih =>
      obtain ⟨name, v⟩ := m
      have hname : (Node.text name).written.text? = some name := by
        rw [Node.written]
        split <;> rfl
      rw [Value.entries, Node.writtenEntries, Record.fieldsOf?, ih, hname]
      rfl

/-- YAML keeps the type of a text that is not misread. -/
theorem keeps_yaml (s : String) : yaml.Keeps s ↔ Yaml.misreads s = false := by
  show (Node.text s).written.scalar? = some (.text s) ↔ _
  rw [Node.written]
  cases hquotes : Yaml.needsQuotes s with
  | true => simp [Node.scalar?, Yaml.misreads, hquotes]
  | false =>
    rw [if_neg Bool.false_ne_true]
    rcases Yaml.ofPlain?_bare hquotes with ⟨hkept, htext⟩ | ⟨hmisread, hother⟩
    · exact ⟨fun _ => hkept, fun _ => htext⟩
    · refine ⟨fun htext => ?_, fun hkept => ?_⟩
      · exact absurd (hother _ htext).1 (by simp [Node.text?])
      · rw [hmisread] at hkept
        cases hkept

/-! ### Fields -/

variable (format : DocumentFormat) {α : Type} {ms : List (String × Value)}

/-- The fields of an object. -/
def record (ms : List (String × Value)) : Record := .named (ms.map fun m => (m.1, format.node m.2))

/-- An object whose members have different names is a record of them. -/
theorem ofNode?_object (distinct : (ms.map Prod.fst).Nodup) (names : List String) :
    Record.ofNode? names (format.node (.object ms)) = some (format.record ms) := by
  obtain ⟨es, hes, hfields⟩ := format.node_object ms
  have hone : Record.isUnambiguous names (ms.map fun m => (m.1, format.node m.2)) = true :=
    Record.isUnambiguous_of_nodup (by rwa [List.map_map]) names
  rw [hes, Record.ofNode?, hfields]
  simp [hone, record]

theorem field?_record (ms : List (String × Value)) (name : String) :
    (format.record ms).field? name = (ms.lookup name).map format.node :=
  Record.lookup_map_node _ ms name

theorem withDefault_record (name : String) (default : α) (read : Node → Option α) :
    (format.record ms).withDefault name default read =
      match ms.lookup name with
      | none => some default
      | some v => read (format.node v) := by
  rw [Record.withDefault, field?_record]
  cases ms.lookup name <;> rfl

theorem required_record (name : String) (read : Node → Option α) :
    (format.record ms).required name read =
      (ms.lookup name).bind fun v => read (format.node v) := by
  rw [Record.required, field?_record, Option.bind_map]
  rfl

/-- A list is read item by item. -/
theorem list?_list {read : Node → Option α} {write : α → Value} {xs : List α}
    (h : ∀ x ∈ xs, read (format.node (write x)) = some x) :
    Node.list? read (format.node (.list (xs.map write))) = some xs := by
  rw [format.node_list, List.map_map, Node.list?]
  exact (mapM_map_eq_some h).trans (congrArg some (List.map_id' xs))

theorem readTexts?_texts (xs : List String) :
    readTexts? (format.node (.texts xs)) = some xs :=
  format.list?_list fun s _ => format.text?_text s

end DocumentFormat

end SuiteRunner
