import SuiteRunner.Yaml.Layout
import SuiteRunner.Document.Node

/-!
# Reading YAML

Builds the document of a text from its tokens.  Missing nodes are plain scalars with the text `~`.  A text has to hold
exactly one document.

Main definitions:

* `node?`, a node at the front of the tokens, with readers for each kind of collection;
* `read?`, a text that is one document.
-/

namespace SuiteRunner.Yaml

/-- The nodes with an anchor, latest first; a node whose end has not been seen yet is a cycle. -/
abbrev Anchors := List (String × Node)

/-- What a reader gives: a result, the anchors known after it, and the tokens that follow. -/
abbrev Reading (α : Type) := α × Anchors × List Token

/-- A node that is not there. -/
def absent : Node := .plain "~"

/-- The properties in front of a node, and the tokens after them. -/
structure Properties where
  anchor : Option String
  tag : Option (String × String)

/-- Reads the anchor and the tag in front of a node, in either order. -/
def properties : List Token → Properties × List Token
  | .anchor a :: .tag h s :: rest => (⟨some a, some (h, s)⟩, rest)
  | .anchor a :: rest => (⟨some a, none⟩, rest)
  | .tag h s :: .anchor a :: rest => (⟨some a, some (h, s)⟩, rest)
  | .tag h s :: rest => (⟨none, some (h, s)⟩, rest)
  | rest => (⟨none, none⟩, rest)

/-- The anchors known inside of a node with these properties. -/
def Properties.enter (p : Properties) (known : Anchors) : Anchors :=
  match p.anchor with
  | some a => (a, .cycle) :: known
  | none => known

/-- The anchors known after a node with these properties, where `known` are those before it and `inner` those at its
end.  An anchor that occurs again inside of the node stays with the inner node. -/
def Properties.leave (p : Properties) (n : Node) (known inner : Anchors) : Anchors :=
  match p.anchor with
  | some a => inner.set (inner.length - 1 - known.length) (a, n)
  | none => inner

/-- The node of a scalar. -/
def Properties.scalar (p : Properties) (bare : Bool) (s : String) : Node :=
  match p.tag with
  | some (handle, suffix) => .tagged handle suffix bare s
  | none => if bare then .plain s else .text s

/-- Holds at the tokens that may follow a missing key or value of a block mapping. -/
def endsBlockPart : List Token → Bool
  | .key :: _ | .value :: _ | .blockEnd :: _ => true
  | _ => false

/-- Holds at the tokens that may follow a missing entry of a block sequence. -/
def endsBlockEntry : List Token → Bool
  | .blockEntry :: _ | .blockEnd :: _ => true
  | _ => false

mutual

/-- A node at the front of the tokens.  `block` holds where block collections may stand, and `bareEntries` where a
sequence may start without a deeper indentation. -/
def node? (block bareEntries : Bool) (known : Anchors) : Nat → List Token → Option (Reading Node)
  | 0, _ => none
  | fuel + 1, ts =>
    match ts with
    | .alias name :: rest => (known.lookup name).map fun n => (n, known, rest)
    | _ =>
      let (p, ts) := properties ts
      let inner := p.enter known
      let finish (n : Node) (seen : Anchors) (rest : List Token) : Option (Reading Node) :=
        some (n, p.leave n known seen, rest)
      match ts with
      | .scalar bare s :: rest => finish (p.scalar bare s) inner rest
      | .flowSequenceStart :: rest => do
        let (items, seen, rest) ← flowItems? true inner fuel rest
        finish (.list items) seen rest
      | .flowMappingStart :: rest => do
        let (entries, seen, rest) ← flowEntries? true inner fuel rest
        finish (.map entries) seen rest
      | _ =>
        if bareEntries && ts.head? == some .blockEntry then do
          let (items, seen, rest) ← bareItems? inner fuel ts
          finish (.list items) seen rest
        else if block && ts.head? == some .blockSequenceStart then do
          let (items, seen, rest) ← blockItems? inner fuel (ts.drop 1)
          finish (.list items) seen rest
        else if block && ts.head? == some .blockMappingStart then do
          let (entries, seen, rest) ← blockEntries? inner fuel (ts.drop 1)
          finish (.map entries) seen rest
        else if p.anchor.isSome || p.tag.isSome then finish (p.scalar true "") inner ts
        else none

/-- The entries of a block sequence up to its end. -/
def blockItems? (known : Anchors) : Nat → List Token → Option (Reading (List Node))
  | 0, _ => none
  | fuel + 1, ts =>
    match ts with
    | .blockEnd :: rest => some ([], known, rest)
    | .blockEntry :: rest => do
      let (n, known, rest) ←
        if endsBlockEntry rest then some (absent, known, rest) else node? true false known fuel rest
      let (ns, known, rest) ← blockItems? known fuel rest
      return (n :: ns, known, rest)
    | _ => none

/-- The entries of a sequence that is not indented; it ends where no entry follows. -/
def bareItems? (known : Anchors) : Nat → List Token → Option (Reading (List Node))
  | 0, _ => none
  | fuel + 1, ts =>
    match ts with
    | .blockEntry :: rest => do
      let (n, known, rest) ←
        if endsBlockEntry rest || endsBlockPart rest then some (absent, known, rest)
        else node? true false known fuel rest
      let (ns, known, rest) ← bareItems? known fuel rest
      return (n :: ns, known, rest)
    | _ => some ([], known, ts)

/-- The entries of a block mapping up to its end. -/
def blockEntries? (known : Anchors) : Nat → List Token → Option (Reading (List (Node × Node)))
  | 0, _ => none
  | fuel + 1, ts =>
    match ts with
    | .blockEnd :: rest => some ([], known, rest)
    | .key :: rest => do
      let (k, known, rest) ←
        if endsBlockPart rest then some (absent, known, rest) else node? true true known fuel rest
      let (v, known, rest) ← blockValue? known fuel rest
      let (es, known, rest) ← blockEntries? known fuel rest
      return ((k, v) :: es, known, rest)
    | .value :: _ => do
      let (v, known, rest) ← blockValue? known fuel ts
      let (es, known, rest) ← blockEntries? known fuel rest
      return ((absent, v) :: es, known, rest)
    | _ => none

/-- The value of an entry of a block mapping. -/
def blockValue? (known : Anchors) : Nat → List Token → Option (Reading Node)
  | 0, _ => none
  | fuel + 1, ts =>
    match ts with
    | .value :: rest => if endsBlockPart rest then some (absent, known, rest) else node? true true known fuel rest
    | _ => some (absent, known, ts)

/-- The items of a flow sequence up to its end; before an item that is not the first one stands a comma.  An item may
be a mapping of a single entry without braces. -/
def flowItems? (first : Bool) (known : Anchors) : Nat → List Token → Option (Reading (List Node))
  | 0, _ => none
  | fuel + 1, ts =>
    let item (ts : List Token) : Option (Reading (List Node)) :=
      match ts with
      | .flowSequenceEnd :: rest => some ([], known, rest)
      | .key :: rest => do
        let (e, known, rest) ← flowPair? known fuel rest
        let (ns, known, rest) ← flowItems? false known fuel rest
        return (.map [e] :: ns, known, rest)
      | _ => do
        let (n, known, rest) ← node? false false known fuel ts
        let (ns, known, rest) ← flowItems? false known fuel rest
        return (n :: ns, known, rest)
    match ts with
    | .flowSequenceEnd :: rest => some ([], known, rest)
    | _ =>
      if first then item ts
      else
        match ts with
        | .flowEntry :: rest => item rest
        | _ => none

/-- The single entry of a mapping inside a flow sequence.  Where its key is missing, the token that shows this is
passed over. -/
def flowPair? (known : Anchors) : Nat → List Token → Option (Reading (Node × Node))
  | 0, _ => none
  | fuel + 1, ts => do
    let (k, known, rest) ←
      match ts with
      | .value :: rest | .flowEntry :: rest | .flowSequenceEnd :: rest => some (absent, known, rest)
      | _ => node? false false known fuel ts
    match rest with
    | .value :: rest =>
      match rest with
      | .flowEntry :: _ | .flowSequenceEnd :: _ => return ((k, absent), known, rest)
      | _ =>
        let (v, known, rest) ← node? false false known fuel rest
        return ((k, v), known, rest)
    | _ => return ((k, absent), known, rest)

/-- The entries of a flow mapping up to its end; before an entry that is not the first one stands a comma. -/
def flowEntries? (first : Bool) (known : Anchors) : Nat → List Token → Option (Reading (List (Node × Node)))
  | 0, _ => none
  | fuel + 1, ts =>
    let entry (ts : List Token) : Option (Reading (List (Node × Node))) :=
      match ts with
      | .flowMappingEnd :: rest => some ([], known, rest)
      | .key :: rest => do
        let (k, known, rest) ←
          match rest with
          | .value :: _ | .flowEntry :: _ | .flowMappingEnd :: _ => some (absent, known, rest)
          | _ => node? false false known fuel rest
        let (v, known, rest) ← flowValue? known fuel rest
        let (es, known, rest) ← flowEntries? false known fuel rest
        return ((k, v) :: es, known, rest)
      | .value :: _ => do
        let (v, known, rest) ← flowValue? known fuel ts
        let (es, known, rest) ← flowEntries? false known fuel rest
        return ((absent, v) :: es, known, rest)
      | _ => do
        let (k, known, rest) ← node? false false known fuel ts
        let (es, known, rest) ← flowEntries? false known fuel rest
        return ((k, absent) :: es, known, rest)
    match ts with
    | .flowMappingEnd :: rest => some ([], known, rest)
    | _ =>
      if first then entry ts
      else
        match ts with
        | .flowEntry :: rest => entry rest
        | _ => none

/-- The value of an entry of a flow mapping. -/
def flowValue? (known : Anchors) : Nat → List Token → Option (Reading Node)
  | 0, _ => none
  | fuel + 1, ts =>
    match ts with
    | .value :: rest =>
      match rest with
      | .flowEntry :: _ | .flowMappingEnd :: _ => some (absent, known, rest)
      | _ => node? false false known fuel rest
    | _ => some (absent, known, ts)

end

/-! ### Documents -/

/-- The tokens after the directives. -/
def skipDirectives : List Token → List Token
  | .directive :: rest => skipDirectives rest
  | ts => ts

/-- Holds at the tokens before which an explicit document may be empty. -/
def endsDocument : List Token → Bool
  | .directive :: _ | .documentStart :: _ | .documentEnd :: _ | .streamEnd :: _ => true
  | _ => false

/-- A document after its start mark. -/
def explicitDocument? (fuel : Nat) (ts : List Token) : Option (Node × List Token) :=
  match skipDirectives ts with
  | .documentStart :: rest =>
    if endsDocument rest then some (absent, rest)
    else (node? true false [] fuel rest).map fun (n, _, rest) => (n, rest)
  | _ => none

/-- The first document of the tokens. -/
def document? (fuel : Nat) (ts : List Token) : Option (Node × List Token) :=
  match ts with
  | .streamEnd :: _ => none
  | .directive :: _ | .documentStart :: _ => explicitDocument? fuel ts
  | _ => (node? true false [] fuel ts).map fun (n, _, rest) => (n, rest)

/-- The tokens after document end marks. -/
def skipDocumentEnds : List Token → List Token
  | .documentEnd :: rest => skipDocumentEnds rest
  | ts => ts

/-- The document that a text is. -/
def read? (text : List Char) : Option Node := do
  let ts ← tokens? text
  let (n, rest) ← document? (4 * ts.length + 4) ts
  if skipDocumentEnds rest == [.streamEnd] then some n else none

end SuiteRunner.Yaml
