import SuiteRunner.Proofs.YamlTokens
import SuiteRunner.Yaml.Reader

/-!
# Printed documents are read back, but for types

The tokens of a document are read as the document.  What was printed without quotation marks has
lost its type: it is a plain scalar.

* `Node.written`, a document as far as printing keeps it;
* `node?_tokens`, the induction over the document; the number of its tokens is fuel enough;
* **`read?_print`** — a printed document is read back as far as printing keeps it.
-/

namespace SuiteRunner

/-! ### Documents as they are read -/

namespace Node

mutual

/-- The document as it is read after it has been printed: what is written without quotation marks
becomes a plain scalar. -/
def written : Node → Node
  | .null => .plain "~"
  | .bool b => .plain (if b then "true" else "false")
  | .int n => .plain (toString n)
  | .text s => if Yaml.needsQuotes s then .text s else .plain s
  | .list items => .list (writtenAll items)
  | .map entries => .map (writtenEntries entries)
  | .plain s => .plain s
  | .tagged handle suffix bare s => .tagged handle suffix bare s
  | .float => .float
  | .cycle => .cycle

/-- The items of a list after they have been printed. -/
def writtenAll : List Node → List Node
  | [] => []
  | n :: ns => n.written :: writtenAll ns

/-- The entries of a map after they have been printed. -/
def writtenEntries : List (Node × Node) → List (Node × Node)
  | [] => []
  | (k, v) :: es => (k.written, v.written) :: writtenEntries es

end

theorem writtenAll_eq_map (ns : List Node) : writtenAll ns = ns.map written := by
  induction ns with
  | nil => rfl
  | cons n ns ih => rw [writtenAll, ih, List.map_cons]

end Node

namespace Yaml

variable {known : Anchors} {fuel : Nat} {rest : List Token} {bare entries : Bool} {s : String}

/-! ### Nodes -/

/-- A scalar is read. -/
theorem node?_scalar : node? true entries known (fuel + 1) (.scalar bare s :: rest) =
    some (if bare then .plain s else .text s, known, rest) := by
  rw [node?]
  · rfl
  · rintro _ _ ⟨⟩

/-- A block sequence is read item by item. -/
theorem node?_sequence : node? true entries known (fuel + 1) (.blockSequenceStart :: rest) =
    (blockItems? known fuel rest).map fun (items, seen, rest) => (.list items, seen, rest) := by
  rw [node?, Option.map_eq_bind, Function.comp_def]
  · simp [properties, Properties.enter, Properties.leave]
  · rintro _ _ ⟨⟩

/-- A block mapping is read entry by entry. -/
theorem node?_mapping : node? true entries known (fuel + 1) (.blockMappingStart :: rest) =
    (blockEntries? known fuel rest).map fun (es, seen, rest) => (.map es, seen, rest) := by
  rw [node?, Option.map_eq_bind, Function.comp_def]
  · simp [properties, Properties.enter, Properties.leave]
  · rintro _ _ ⟨⟩

/-- An empty collection is read. -/
theorem node?_emptyList : node? true entries known (fuel + 2)
    (.flowSequenceStart :: .flowSequenceEnd :: rest) = some (.list [], known, rest) := by
  rw [node?]
  · simp only [properties]
    rfl
  · rintro _ _ ⟨⟩

theorem node?_emptyMap : node? true entries known (fuel + 2)
    (.flowMappingStart :: .flowMappingEnd :: rest) = some (.map [], known, rest) := by
  rw [node?]
  · simp only [properties]
    rfl
  · rintro _ _ ⟨⟩

/-! ### Documents -/

/-- The tokens of a document start with neither the sign nor the end of an entry. -/
theorem endsBlock_tokens (v : Value) (rest : List Token) :
    endsBlockEntry (tokens v ++ rest) = false ∧ endsBlockPart (tokens v ++ rest) = false ∧
      endsDocument (tokens v ++ rest) = false := by
  cases v with
  | list vs => cases vs <;> (rw [tokens]; exact ⟨rfl, rfl, rfl⟩)
  | object ms => cases ms <;> (rw [tokens]; exact ⟨rfl, rfl, rfl⟩)
  | _ => rw [tokens]; exact ⟨rfl, rfl, rfl⟩

/-- How a name is read. -/
theorem written_text (s : String) :
    (if (!needsQuotes s) = true then Node.plain s else .text s) = (Node.text s).written := by
  rw [Node.written]
  cases needsQuotes s <;> rfl

mutual

/-- **The tokens of a document are read as the document**, as far as it is written. -/
theorem node?_tokens (known : Anchors) (entries : Bool) (rest : List Token) :
    ∀ (v : Value) (fuel : Nat), (tokens v).length ≤ fuel →
      node? true entries known fuel (tokens v ++ rest) = some (v.node.written, known, rest)
  | .null, fuel + 1, _ => by
    rw [tokens, Value.node, Node.written]
    exact node?_scalar
  | .bool b, fuel + 1, _ => by
    rw [tokens, Value.node, Node.written]
    exact node?_scalar
  | .int n, fuel + 1, _ => by
    rw [tokens, Value.node, Node.written]
    exact node?_scalar
  | .text s, fuel + 1, _ => by
    rw [tokens, Value.node, ← written_text]
    exact node?_scalar
  | .list [], fuel + 2, _ => by
    rw [tokens]
    exact node?_emptyList
  | .object [], fuel + 2, _ => by
    rw [tokens]
    exact node?_emptyMap
  | .list (v :: vs), fuel + 1, h => by
    rw [tokens] at h ⊢
    simp only [List.length_cons, List.length_append, List.length_nil] at h
    rw [List.cons_append, node?_sequence, List.append_assoc, List.singleton_append,
      blockItems?_tokens known rest (v :: vs) fuel (by omega)]
    rfl
  | .object (m :: ms), fuel + 1, h => by
    rw [tokens] at h ⊢
    simp only [List.length_cons, List.length_append, List.length_nil] at h
    rw [List.cons_append, node?_mapping, List.append_assoc, List.singleton_append,
      blockEntries?_tokens known rest (m :: ms) fuel (by omega)]
    rfl

/-- The tokens of items are read as the items. -/
theorem blockItems?_tokens (known : Anchors) (rest : List Token) :
    ∀ (vs : List Value) (fuel : Nat), (itemTokens vs).length + 1 ≤ fuel →
      blockItems? known fuel (itemTokens vs ++ .blockEnd :: rest) =
        some (Node.writtenAll (Value.nodes vs), known, rest)
  | [], fuel + 1, _ => by
    rw [itemTokens, List.nil_append, blockItems?]
    rfl
  | v :: vs, fuel + 1, h => by
    rw [itemTokens] at h ⊢
    simp only [List.length_cons, List.length_append] at h
    rw [List.cons_append, List.append_assoc, blockItems?, (endsBlock_tokens v _).1]
    simp only [Bool.false_eq_true, if_false]
    rw [node?_tokens known false _ v fuel (by omega), Option.bind_eq_bind, Option.bind_some,
      blockItems?_tokens known rest vs fuel (by omega)]
    rfl

/-- The tokens of members are read as the members. -/
theorem blockEntries?_tokens (known : Anchors) (rest : List Token) :
    ∀ (ms : List (String × Value)) (fuel : Nat), (memberTokens ms).length + 1 ≤ fuel →
      blockEntries? known fuel (memberTokens ms ++ .blockEnd :: rest) =
        some (Node.writtenEntries (Value.entries ms), known, rest)
  | [], fuel + 1, _ => by
    rw [memberTokens, List.nil_append, blockEntries?]
    rfl
  | (name, v) :: ms, fuel + 2, h => by
    rw [memberTokens] at h ⊢
    simp only [List.length_cons, List.length_append] at h
    have hvalue : blockValue? known (fuel + 1)
        (.value :: (tokens v ++ (memberTokens ms ++ .blockEnd :: rest))) =
        some (v.node.written, known, memberTokens ms ++ .blockEnd :: rest) := by
      rw [blockValue?, (endsBlock_tokens v _).2.1, if_neg Bool.false_ne_true,
        node?_tokens known true _ v fuel (by omega)]
    rw [List.cons_append, List.cons_append, List.cons_append, List.append_assoc, blockEntries?,
      show endsBlockPart (.scalar (!needsQuotes name) name :: _) = false from rfl]
    simp only [Bool.false_eq_true, if_false]
    rw [node?_scalar, written_text, Option.bind_eq_bind, Option.bind_some, hvalue,
      Option.bind_eq_bind, Option.bind_some,
      blockEntries?_tokens known rest ms (fuel + 1) (by omega)]
    rfl

end

/-- **A printed document is read back**, but for the types of what stands without quotation
marks. -/
theorem read?_print {v : Value} (fits : v.NamesFit) :
    read? (print v).toList = some v.node.written := by
  have hnode := node?_tokens [] false [.streamEnd] v
    (4 * (Token.documentStart :: (tokens v ++ [.streamEnd])).length + 4) (by simp; omega)
  have hdocument : document? (4 * (Token.documentStart :: (tokens v ++ [.streamEnd])).length + 4)
      (.documentStart :: (tokens v ++ [.streamEnd])) = some (v.node.written, [.streamEnd]) := by
    rw [document?, explicitDocument?, skipDirectives]
    · simp only [(endsBlock_tokens v _).2.2, hnode]
      rfl
    · rintro _ ⟨⟩
  rw [read?, tokens?_print fits]
  simp only [Option.bind_eq_bind, Option.bind_some, hdocument]
  rfl

end Yaml

end SuiteRunner
