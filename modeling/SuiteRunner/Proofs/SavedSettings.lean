import Mathlib.Data.List.ReduceOption
import SuiteRunner.Proofs.ConfigRanges
import SuiteRunner.Proofs.DocumentFormats

/-!
# Saved settings are loaded again

A settings file is saved in the format that its path calls for.  The settings of a profile stand
beside its name, and are read without their types; all other fields are read with theirs.  So a file
comes back as it was, but for a YAML file with a profile in which a text is a number by itself: this
one cannot be loaded any more.

* `SettingKind`, the kinds of values that settings have, and `Settings.Holds`, the settings with
  their names and kinds;
* `SettingKind.option?_write`, a value that is read with its type, `SettingKind.untyped?_write` and
  `SettingKind.keeps_of_untyped?`, a value that is read without;
* `Settings.ofRecord?_members`, `Profile.ofNode?_of_keeps` and `Profile.keeps_of_ofNode?`, one lemma
  for each record, in every format;
* **`SettingsFile.ofText?_print`** — the text of a file is read back, or is misread;
* **`SettingsFile.load_after_save`** — what has been loaded is saved and loaded again.
-/

namespace SuiteRunner

open Numeral

variable {α : Type} {format : DocumentFormat} {depth : Nat}

theorem Node.untypedAll?_eq (depth : Nat) (ns : List Node) :
    untypedAll? depth ns = ns.mapM (untyped? depth) := by
  induction ns with
  | nil => rfl
  | cons n ns ih => rw [untypedAll?, ih, List.mapM_cons]

/-! ### Kinds of settings -/

/-- The kinds of values that settings have. -/
inductive SettingKind : Type → Type 1 where
  | text : SettingKind String
  | flag : SettingKind Bool
  | number (max : Nat) (h : max ≤ max64) : SettingKind Nat
  | texts : SettingKind (List String)

namespace SettingKind

/-- Reads a value. -/
def read : SettingKind α → Node → Option α
  | text => Node.text?
  | flag => Node.bool?
  | number max _ => Node.nat? max
  | texts => readTexts?

/-- The document of a value. -/
def write : SettingKind α → α → Value
  | text => .text
  | flag => .bool
  | number _ _ => .nat
  | texts => .texts

/-- The value can be read. -/
def Fits : SettingKind α → α → Prop
  | number max _, n => n ≤ max
  | text, _ | flag, _ | texts, _ => True

/-- Numbers of 32 bits. -/
def nat32 : SettingKind Nat := number max32 (by decide)

/-- Numbers of 64 bits. -/
def nat64 : SettingKind Nat := number max64 (Nat.le_refl _)

/-- The texts of a value. -/
def textsIn : SettingKind α → α → List String
  | text, s => [s]
  | texts, ss => ss
  | flag, _ | number _ _, _ => []

theorem fits64_of_le {max n : Nat} (h : max ≤ max64) (hn : n ≤ max) :
    Node.fits64 n = true := by
  rw [max64] at h
  rw [Node.fits64, Bool.and_eq_true, decide_eq_true_eq, decide_eq_true_eq]
  omega

/-- **A value is read again**, in every format. -/
theorem option?_write (kind : SettingKind α) {a : α} (fits : kind.Fits a) :
    Node.option? kind.read (format.node (kind.write a)) = some (some a) := by
  cases kind with
  | text => simp [Node.option?, write, read, format.isNull?_text, format.text?_text]
  | flag =>
    simp [Node.option?, write, read, format.isNull?_bool, Node.bool?, format.scalar?_bool]
  | number max h =>
    have hle : a ≤ max := fits
    have hread : Node.nat? max (format.node (.int a)) = some a := by
      simp [Node.nat?, format.scalar?_int (fits64_of_le h hle), hle]
    simp [Node.option?, write, read, Value.nat, format.isNull?_int, hread]
  | texts =>
    have hread := format.readTexts?_texts a
    have hnull : (format.node (.texts a)).isNull? = some false := by
      simp [Value.texts, format.node_list, Node.isNull?]
    simp [Node.option?, write, read, hnull, hread]

/-- A value keeps its type, if its texts do. -/
theorem untyped?_write (kind : SettingKind α) {a : α} (fits : kind.Fits a)
    (keeps : ∀ t ∈ kind.textsIn a, format.Keeps t) :
    (format.node (kind.write a)).untyped? (depth + 1) = some (kind.write a).node := by
  cases kind with
  | text =>
    rw [write, format.untyped?_text]
    exact keeps a (List.mem_singleton.2 rfl)
  | flag => rw [write, format.untyped?_bool, format.scalar?_bool, Value.node]
  | number max h => exact (format.untyped?_int _ _).trans (format.scalar?_int (fits64_of_le h fits))
  | texts =>
    have hitems : (a.map fun t => format.node (.text t)).mapM (Node.untyped? depth) =
        some (a.map fun t => .text t) := by
      refine mapM_map_eq_some fun t ht => ?_
      exact (format.untyped?_text depth t).trans (keeps t ht)
    rw [write, Value.texts, format.node_list, List.map_map, Node.untyped?, if_neg (by omega),
      Nat.add_sub_cancel, Node.untypedAll?_eq, Value.node, Value.nodes_eq_map, List.map_map]
    exact congrArg (Option.map Node.list) hitems

/-- A text that has another type by itself is not read. -/
theorem keeps_of_text? {t : String} {n : Node}
    (huntyped : (format.node (.text t)).untyped? depth = some n) (hread : n.text? ≠ none) :
    format.Keeps t := by
  rw [format.untyped?_text] at huntyped
  exact (format.scalar?_text t).resolve_right fun hother => hread (hother n huntyped).1

/-- A value that is read without its type has kept the types of its texts. -/
theorem keeps_of_untyped? (kind : SettingKind α) {a : α} {n : Node} {o : Option α}
    (huntyped : (format.node (kind.write a)).untyped? depth = some n)
    (hread : Node.option? kind.read n = some o) : ∀ t ∈ kind.textsIn a, format.Keeps t := by
  cases kind with
  | text =>
    rintro t ht
    obtain rfl := List.mem_singleton.1 ht
    refine (format.scalar?_text t).resolve_right fun hother => ?_
    rw [write, format.untyped?_text] at huntyped
    obtain ⟨htext, hnull⟩ := hother n huntyped
    simp [Node.option?, hnull, read, htext] at hread
  | texts =>
    intro t ht
    rw [write, Value.texts, format.node_list, Node.untyped?] at huntyped
    split at huntyped
    · cases huntyped
    · obtain ⟨items, hitems, rfl⟩ := Option.map_eq_some_iff.1 huntyped
      rw [Node.untypedAll?_eq] at hitems
      obtain ⟨item, hitem, hitemRead⟩ := exists_of_mapM hitems (format.node (.text t)) (by
        simpa using ⟨t, ht, rfl⟩)
      obtain ⟨ts, hts, -⟩ : ∃ ts, items.mapM Node.text? = some ts ∧ some ts = o := by
        simpa [Node.option?, Node.isNull?, read, readTexts?, Node.list?,
          Option.bind_eq_some_iff] using hread
      obtain ⟨text, -, htext⟩ := exists_of_mapM hts item hitem
      exact keeps_of_text? hitemRead (by simp [htext])
  | flag | number _ _ => simp [textsIn]

end SettingKind

/-! ### Settings -/

/-- Members that may be there, by their names. -/
theorem lookup_present {table : List (String × Option Value)}
    (distinct : (table.map Prod.fst).Nodup) (name : String) :
    (Value.present table).lookup name = (table.lookup name).join := by
  induction table with
  | nil => rfl
  | cons entry table ih =>
    obtain ⟨n, o⟩ := entry
    rw [List.map_cons, List.nodup_cons] at distinct
    have hrest := ih distinct.2
    rw [List.lookup_cons]
    cases o with
    | none =>
      have hpresent : Value.present ((n, none) :: table) = Value.present table := rfl
      rw [hpresent, hrest]
      cases hn : name == n with
      | true =>
        rw [beq_iff_eq] at hn
        have hnone : table.lookup name = none := by
          refine List.lookup_eq_none_iff.2 fun entry hentry => bne_iff_ne.2 ?_
          rintro rfl
          have hmem : entry.1 ∈ table.map Prod.fst := List.mem_map_of_mem hentry
          exact distinct.1 (hn ▸ hmem)
        rw [hnone]
        rfl
      | false => rfl
    | some v =>
      have hpresent : Value.present ((n, some v) :: table) = (n, v) :: Value.present table := rfl
      rw [hpresent, List.lookup_cons]
      cases hn : name == n with
      | true => rfl
      | false => exact hrest

theorem present_names_sublist (table : List (String × Option Value)) :
    ((Value.present table).map Prod.fst).Sublist (table.map Prod.fst) := by
  induction table with
  | nil => exact .slnil
  | cons entry table ih =>
    obtain ⟨n, _ | v⟩ := entry
    · exact ih.cons n
    · exact ih.cons_cons n

namespace Settings

/-- What settings say under a name, and of which kind it is. -/
inductive Holds (s : Settings) : {α : Type} → String → SettingKind α → Option α → Prop
  | simulator : s.Holds "sst_path" .text s.simulator
  | launcher : s.Holds "mpirun_path" .text s.launcher
  | oversubscribe : s.Holds "mpi_oversubscribe" .flag s.oversubscribe
  | ranks : s.Holds "ranks" .nat32 s.ranks
  | threads : s.Holds "threads" .nat32 s.threads
  | concurrency : s.Holds "concurrency" .nat64 s.concurrency
  | timeoutSecs : s.Holds "timeout_secs" .nat64 s.timeoutSecs
  | outputDir : s.Holds "output_dir" .text s.outputDir
  | reportDir : s.Holds "junit_dir" .text s.reportDir
  | keepOutputs : s.Holds "keep_outputs" .flag s.keepOutputs
  | failFast : s.Holds "fail_fast" .flag s.failFast
  | testType : s.Holds "test_type" .text s.testType
  | searchPaths : s.Holds "search_paths" .texts s.searchPaths
  | installFile : s.Holds "sst_conf" .text s.installFile

theorem nodup_fields : fields.Nodup := by decide

theorem names_sublist (s : Settings) : (s.members.map Prod.fst).Sublist fields :=
  present_names_sublist _

variable {s : Settings} {name : String} {kind : SettingKind α} {o : Option α}

/-- The members of settings are what they say. -/
theorem Holds.lookup (holds : s.Holds name kind o) : s.members.lookup name = o.map kind.write := by
  rw [members, lookup_present]
  · cases holds <;> rfl
  · exact nodup_fields

/-- The values of settings that are in range can be read. -/
theorem Holds.fits (holds : s.Holds name kind o) (fits : s.Fits) : ∀ a ∈ o, kind.Fits a := by
  intro a ha
  cases holds with
  | ranks => exact fits .ranks a ha
  | threads => exact fits .threads a ha
  | concurrency => exact fits .concurrency a ha
  | timeoutSecs => exact fits .timeoutSecs a ha
  | _ => trivial

/-- **Settings are read one by one.** -/
theorem ofRecord?_eq_some_iff {r : Record} : ofRecord? r = some s ↔
    ∀ {α : Type} {name : String} {kind : SettingKind α} {o : Option α}, s.Holds name kind o →
      r.optional name kind.read = some o := by
  constructor
  · intro h
    obtain ⟨_, simulator, h⟩ := Option.bind_eq_some_iff.1 h
    obtain ⟨_, launcher, h⟩ := Option.bind_eq_some_iff.1 h
    obtain ⟨_, oversubscribe, h⟩ := Option.bind_eq_some_iff.1 h
    obtain ⟨_, ranks, h⟩ := Option.bind_eq_some_iff.1 h
    obtain ⟨_, threads, h⟩ := Option.bind_eq_some_iff.1 h
    obtain ⟨_, concurrency, h⟩ := Option.bind_eq_some_iff.1 h
    obtain ⟨_, timeoutSecs, h⟩ := Option.bind_eq_some_iff.1 h
    obtain ⟨_, outputDir, h⟩ := Option.bind_eq_some_iff.1 h
    obtain ⟨_, reportDir, h⟩ := Option.bind_eq_some_iff.1 h
    obtain ⟨_, keepOutputs, h⟩ := Option.bind_eq_some_iff.1 h
    obtain ⟨_, failFast, h⟩ := Option.bind_eq_some_iff.1 h
    obtain ⟨_, testType, h⟩ := Option.bind_eq_some_iff.1 h
    obtain ⟨_, searchPaths, h⟩ := Option.bind_eq_some_iff.1 h
    obtain ⟨_, installFile, h⟩ := Option.bind_eq_some_iff.1 h
    cases h
    intro α name kind o holds
    cases holds <;> assumption
  · intro h
    have field {α β : Type} {name : String} {kind : SettingKind α} {o : Option α}
        {rest : Option α → Option β} {b : β} (holds : s.Holds name kind o)
        (hrest : rest o = some b) : (r.optional name kind.read).bind rest = some b :=
      Option.bind_eq_some_iff.2 ⟨o, h holds, hrest⟩
    exact field .simulator <| field .launcher <| field .oversubscribe <| field .ranks <|
      field .threads <| field .concurrency <| field .timeoutSecs <| field .outputDir <|
      field .reportDir <| field .keepOutputs <| field .failFast <| field .testType <|
      field .searchPaths <| field .installFile <| rfl

/-- The texts of settings. -/
def texts (s : Settings) : List String :=
  [s.simulator, s.launcher, s.outputDir, s.reportDir, s.testType, s.installFile].reduceOption ++
    s.searchPaths.getD []

theorem forall_mem_texts {P : String → Prop} : (∀ t ∈ s.texts, P t) ↔
    ∀ {α : Type} {name : String} {kind : SettingKind α} {o : Option α}, s.Holds name kind o →
      ∀ a ∈ o, ∀ t ∈ kind.textsIn a, P t := by
  constructor
  · intro h α name kind o holds a ha t ht
    refine h t ?_
    rw [Option.mem_def] at ha
    cases holds with
    | oversubscribe | ranks | threads | concurrency | timeoutSecs | keepOutputs | failFast =>
      cases ht
    | searchPaths => simp [texts, ha, show t ∈ a from ht]
    | _ =>
      obtain rfl := List.mem_singleton.1 ht
      simp [texts, List.reduceOption, ha]
  · intro h t ht
    simp only [texts, List.mem_append, List.reduceOption_mem_iff, List.mem_cons, List.not_mem_nil,
      or_false] at ht
    rcases ht with (ht | ht | ht | ht | ht | ht) | ht
    · exact h .simulator t ht.symm t (List.mem_singleton.2 rfl)
    · exact h .launcher t ht.symm t (List.mem_singleton.2 rfl)
    · exact h .outputDir t ht.symm t (List.mem_singleton.2 rfl)
    · exact h .reportDir t ht.symm t (List.mem_singleton.2 rfl)
    · exact h .testType t ht.symm t (List.mem_singleton.2 rfl)
    · exact h .installFile t ht.symm t (List.mem_singleton.2 rfl)
    · cases hpaths : s.searchPaths with
      | none => simp [hpaths] at ht
      | some paths =>
        have hpath : t ∈ paths := by simpa [hpaths] using ht
        exact h .searchPaths paths hpaths t hpath

theorem optional_named (known : List (String × Node)) (name : String) (read : Node → Option α) :
    (Record.named known).optional name read =
      (known.lookup name).elim (some Option.none) (Node.option? read) := by
  rw [Record.optional, Record.withDefault, Record.field?]
  cases known.lookup name <;> rfl

/-- A field that is looked up is read. -/
theorem optional_of_lookup {known : List (String × Node)} {node : α → Node}
    (hlookup : known.lookup name = o.map node)
    (hread : ∀ a ∈ o, Node.option? kind.read (node a) = some (some a)) :
    (Record.named known).optional name kind.read = some o := by
  rw [optional_named, hlookup]
  cases o with
  | none => rfl
  | some a => exact hread a rfl

/-- **Settings are read back**, in every format. -/
theorem ofRecord?_members (fits : s.Fits) : ofRecord? (format.record s.members) = some s := by
  refine ofRecord?_eq_some_iff.2 fun {α name kind o} holds => ?_
  have hlookup : (s.members.map fun m => (m.1, format.node m.2)).lookup name =
      o.map fun a => format.node (kind.write a) := by
    rw [Record.lookup_map_node, holds.lookup, Option.map_map]
    rfl
  exact optional_of_lookup hlookup fun a ha => kind.option?_write (holds.fits fits a ha)

/-- Every member of settings is one of the settings. -/
theorem exists_holds {m : String × Value} (h : m ∈ s.members) :
    ∃ (α : Type) (kind : SettingKind α) (o : Option α), s.Holds m.1 kind o ∧
      ∃ a ∈ o, m.2 = kind.write a := by
  simp only [members, Value.present, List.mem_filterMap, List.mem_cons, List.not_mem_nil,
    or_false] at h
  obtain ⟨entry, hentry, hm⟩ := h
  obtain ⟨v, hv, rfl⟩ := Option.map_eq_some_iff.1 hm
  have hwritten : ∀ {α : Type} {name : String} {kind : SettingKind α} {o : Option α},
      s.Holds name kind o → entry = (name, o.map kind.write) →
      ∃ (α : Type) (kind : SettingKind α) (o : Option α), s.Holds entry.1 kind o ∧
        ∃ a ∈ o, v = kind.write a := by
    rintro α name kind o holds rfl
    obtain ⟨a, ha, rfl⟩ := Option.map_eq_some_iff.1 hv
    exact ⟨α, kind, o, holds, a, ha, rfl⟩
  rcases hentry with h | h | h | h | h | h | h | h | h | h | h | h | h | h
  · exact hwritten .simulator h
  · exact hwritten .launcher h
  · exact hwritten .oversubscribe h
  · exact hwritten .ranks h
  · exact hwritten .threads h
  · exact hwritten .concurrency h
  · exact hwritten .timeoutSecs h
  · exact hwritten .outputDir h
  · exact hwritten .reportDir h
  · exact hwritten .keepOutputs h
  · exact hwritten .failFast h
  · exact hwritten .testType h
  · exact hwritten .searchPaths h
  · exact hwritten .installFile h

end Settings

/-! ### Settings without their types -/

/-- Reads the members of an object, each with the type that it has by itself. -/
def untypedMembers? (format : DocumentFormat) (depth : Nat) (ms : List (String × Value)) :
    Option (List (String × Node)) :=
  (ms.map fun m => (m.1, format.node m.2)).mapM fun (k, v) => do return (k, ← v.untyped? depth)

theorem untypedMembers?_cons (m : String × Value) (ms : List (String × Value)) :
    untypedMembers? format depth (m :: ms) =
      ((format.node m.2).untyped? depth).bind fun n =>
        (untypedMembers? format depth ms).map fun rest => (m.1, n) :: rest := by
  rw [untypedMembers?, List.map_cons, List.mapM_cons]
  cases hn : (format.node m.2).untyped? depth <;>
    simp [untypedMembers?, hn, Option.map_eq_bind, Function.comp_def]

/-- Members keep their names. -/
theorem names_of_untypedMembers? {ms : List (String × Value)} {known : List (String × Node)}
    (h : untypedMembers? format depth ms = some known) :
    known.map Prod.fst = ms.map Prod.fst := by
  induction ms generalizing known with
  | nil =>
    cases h
    rfl
  | cons m ms ih =>
    rw [untypedMembers?_cons, Option.bind_eq_some_iff] at h
    obtain ⟨n, -, h⟩ := h
    obtain ⟨rest, hrest, rfl⟩ := Option.map_eq_some_iff.1 h
    rw [List.map_cons, List.map_cons, ih hrest]

/-- A member is found under its name, with its type. -/
theorem lookup_of_untypedMembers? {ms : List (String × Value)} {known : List (String × Node)}
    (h : untypedMembers? format depth ms = some known) {name : String} {v : Value}
    (hv : ms.lookup name = some v) :
    ∃ n, (format.node v).untyped? depth = some n ∧ known.lookup name = some n := by
  induction ms generalizing known with
  | nil => cases hv
  | cons m ms ih =>
    rw [untypedMembers?_cons, Option.bind_eq_some_iff] at h
    obtain ⟨n, hn, h⟩ := h
    obtain ⟨rest, hrest, rfl⟩ := Option.map_eq_some_iff.1 h
    rw [List.lookup_cons] at hv ⊢
    cases hname : name == m.1 with
    | true =>
      rw [hname] at hv
      cases hv
      exact ⟨n, hn, rfl⟩
    | false =>
      rw [hname] at hv
      exact ih hrest hv

namespace Settings

variable {s : Settings}

/-- Settings whose texts are texts by themselves are read without their types. -/
theorem ofRecord?_untyped (fits : s.Fits) (keeps : ∀ t ∈ s.texts, format.Keeps t) :
    ∃ known, untypedMembers? format (depth + 1) s.members = some known ∧
      ofRecord? (.named known) = some s := by
  have hrecord : ofRecord? (DocumentFormat.json.record s.members) = some s :=
    ofRecord?_members fits
  refine ⟨_, mapM_map_eq_some fun m hm => ?_, hrecord⟩
  obtain ⟨α, kind, o, holds, a, ha, hwrite⟩ := exists_holds hm
  have hkept : (format.node m.2).untyped? (depth + 1) =
      some (DocumentFormat.json.node m.2) := by
    rw [hwrite]
    exact kind.untyped?_write (holds.fits fits a ha) (forall_mem_texts.1 keeps holds a ha)
  simp [hkept]

/-- Settings that are read without their types have texts that are texts by themselves. -/
theorem keeps_of_ofRecord? {s' : Settings} {known : List (String × Node)}
    (hknown : untypedMembers? format depth s.members = some known)
    (hread : ofRecord? (.named known) = some s') : ∀ t ∈ s.texts, format.Keeps t := by
  refine forall_mem_texts.2 fun {α name kind o} holds a ha => ?_
  have hmember : s.members.lookup name = some (kind.write a) := by
    rw [holds.lookup, Option.mem_def.1 ha, Option.map_some]
  obtain ⟨n, huntyped, hlookup⟩ := lookup_of_untypedMembers? hknown hmember
  obtain ⟨o', holds'⟩ : ∃ o', s'.Holds name kind o' := by
    cases holds <;> exact ⟨_, by constructor⟩
  have hoption := ofRecord?_eq_some_iff.1 hread holds'
  rw [optional_named, hlookup] at hoption
  exact kind.keeps_of_untyped? huntyped hoption

end Settings

/-! ### Profiles -/

namespace Profile

variable {p : Profile}

/-- The members of a profile that are not settings. -/
def ownMembers (p : Profile) : List (String × Value) :=
  [("name", .text p.name), ("description", .text p.description), ("scenarios", .texts p.scenarios)]

/-- The fields of a profile are told from its settings by their names. -/
theorem filter_members (p : Profile) :
    (p.ownMembers ++ p.settings.members).filter (fun m => fields.contains m.1) = p.ownMembers ∧
      (p.ownMembers ++ p.settings.members).filter (fun m => !fields.contains m.1) =
        p.settings.members := by
  have hnames : ∀ name ∈ Settings.fields, fields.contains name = false := by decide
  have hsettings : ∀ m ∈ p.settings.members, fields.contains m.1 = false := fun m hm =>
    hnames m.1 (p.settings.names_sublist.subset (List.mem_map_of_mem hm))
  have hnone : p.settings.members.filter (fun m => fields.contains m.1) = [] :=
    List.filter_eq_nil_iff.2 fun m hm => Bool.eq_false_iff.1 (hsettings m hm)
  have hall : p.settings.members.filter (fun m => !fields.contains m.1) = p.settings.members :=
    List.filter_eq_self.2 fun m hm => by rw [hsettings m hm, Bool.not_false]
  rw [List.filter_append, List.filter_append, hnone, hall, List.append_nil]
  exact ⟨rfl, rfl⟩

/-- **What is left to read of a profile**, once its fields are found: its settings, which have lost
their types. -/
theorem ofNode?_node (p : Profile) : ofNode? depth (format.node p.toValue) =
    (untypedMembers? format depth p.settings.members).bind fun known =>
      (Settings.ofRecord? (.named known)).map fun s => { p with settings := s } := by
  obtain ⟨es, hes, hfields⟩ := format.node_object (p.ownMembers ++ p.settings.members)
  obtain ⟨hown, hothers⟩ := p.filter_members
  have hvalue : format.node p.toValue = .map es := hes
  have hopen : ofNode? depth (.map es) = (untypedMembers? format depth p.settings.members).bind
      fun known =>
        if !Record.isUnambiguous fields (p.ownMembers.map fun m => (m.1, format.node m.2)) ||
          !Record.isUnambiguous Settings.fields known then none
        else do
          let r := format.record p.ownMembers
          return {
            name := ← r.required "name" Node.text?
            description := ← r.withDefault "description" "" Node.text?
            scenarios := ← r.withDefault "scenarios" [] readTexts?
            settings := ← Settings.ofRecord? (.named known) } := by
    rw [ofNode?, hfields, Option.bind_eq_bind, Option.bind_some, List.filter_map, List.filter_map]
    show Option.bind (List.mapM _ (((p.ownMembers ++ p.settings.members).filter
      fun m => !fields.contains m.1).map _)) _ = _
    rw [hothers]
    show Option.bind _ (fun known => if !Record.isUnambiguous fields
      (((p.ownMembers ++ p.settings.members).filter fun m => fields.contains m.1).map
        fun m => (m.1, format.node m.2)) || _ then _ else _) = _
    rw [hown]
    rfl
  have hfields : Record.isUnambiguous fields
      (p.ownMembers.map fun m => (m.1, format.node m.2)) = true :=
    Record.isUnambiguous_of_nodup (by simp [ownMembers]) fields
  rw [hvalue, hopen]
  cases hknown : untypedMembers? format depth p.settings.members with
  | none => rfl
  | some known =>
    have hsettings : Record.isUnambiguous Settings.fields known = true := by
      refine Record.isUnambiguous_of_nodup ?_ Settings.fields
      rw [names_of_untypedMembers? hknown]
      exact p.settings.names_sublist.nodup Settings.nodup_fields
    rw [Option.bind_some, Option.bind_some, hfields, hsettings, Option.map_eq_bind,
      Function.comp_def]
    simp [DocumentFormat.required_record, DocumentFormat.withDefault_record, ownMembers,
      List.lookup_cons, format.text?_text, format.readTexts?_texts]

/-- **A profile is read back**, if its settings have no text of another type. -/
theorem ofNode?_of_keeps (fits : p.settings.Fits) (keeps : ∀ t ∈ p.settings.texts, format.Keeps t) :
    ofNode? (depth + 1) (format.node p.toValue) = some p := by
  obtain ⟨known, hknown, hread⟩ := Settings.ofRecord?_untyped fits keeps
  rw [ofNode?_node, hknown, Option.bind_some, hread]
  rfl

/-- A profile that is read has no text of another type. -/
theorem keeps_of_ofNode? {p' : Profile} (h : ofNode? depth (format.node p.toValue) = some p') :
    ∀ t ∈ p.settings.texts, format.Keeps t := by
  rw [ofNode?_node, Option.bind_eq_some_iff] at h
  obtain ⟨known, hknown, h⟩ := h
  obtain ⟨s, hread, -⟩ := Option.map_eq_some_iff.1 h
  exact Settings.keeps_of_ofRecord? hknown hread

end Profile

/-! ### Settings files -/

namespace SettingsFile

variable {f : SettingsFile}

/-- The document of a file is read back, if no profile has a setting that is misread. -/
theorem ofNode?_of_keeps (fits : f.Fits)
    (keeps : ∀ p ∈ f.profiles, ∀ t ∈ p.settings.texts, format.Keeps t) :
    ofNode? (depth + 1) (format.node f.toValue) = some f := by
  have hengine : Settings.ofNode? (format.node (.object f.engine.members)) = some f.engine := by
    have distinct := f.engine.names_sublist.nodup Settings.nodup_fields
    rw [Settings.ofNode?, format.ofNode?_object distinct, Option.bind_some,
      Settings.ofRecord?_members fits.engine]
  have hprofiles : Node.list? (Profile.ofNode? (depth + 1))
      (format.node (.list (f.profiles.map Profile.toValue))) = some f.profiles :=
    format.list?_list fun p hp => Profile.ofNode?_of_keeps (fits.profiles p hp) (keeps p hp)
  rw [ofNode?, toValue, format.ofNode?_object (by simp)]
  simp [DocumentFormat.withDefault_record, List.lookup_cons, format.text?_text, hengine, hprofiles]

/-- A file that is read has no profile with a setting that is misread. -/
theorem keeps_of_ofNode? {f' : SettingsFile} (h : ofNode? depth (format.node f.toValue) = some f') :
    ∀ p ∈ f.profiles, ∀ t ∈ p.settings.texts, format.Keeps t := by
  rw [ofNode?, toValue, format.ofNode?_object (by simp)] at h
  simp only [Option.bind_eq_bind, Option.bind_some, Option.bind_eq_some_iff] at h
  obtain ⟨_, -, _, -, profiles, hprofiles, -⟩ := h
  have hlist : Node.list? (Profile.ofNode? depth)
      (format.node (.list (f.profiles.map Profile.toValue))) = some profiles := by
    simpa [DocumentFormat.withDefault_record, List.lookup_cons] using hprofiles
  rw [format.node_list, List.map_map, Node.list?] at hlist
  intro p hp
  obtain ⟨p', -, hread⟩ := exists_of_mapM hlist (format.node p.toValue)
    (List.mem_map_of_mem hp)
  exact Profile.keeps_of_ofNode? hread

end SettingsFile

/-! ### The texts of files -/

namespace SettingKind

theorem fits_write (kind : SettingKind α) {a : α} (fits : kind.Fits a) : (kind.write a).Fits := by
  cases kind with
  | number max h => exact Value.fits_nat (Nat.le_trans fits h)
  | texts => exact Value.fits_list fun _ _ => trivial
  | text | flag => trivial

theorem namesFit_write (kind : SettingKind α) (a : α) : (kind.write a).NamesFit := by
  cases kind with
  | texts => exact Value.namesFitAll_iff.2 (List.forall_mem_map.2 fun _ _ => trivial)
  | number _ _ | text | flag => trivial

end SettingKind

theorem Settings.fits_members {s : Settings} (fits : s.Fits) : ∀ m ∈ s.members, m.2.Fits := by
  intro m hm
  obtain ⟨α, kind, o, holds, a, ha, hwrite⟩ := exists_holds hm
  rw [hwrite]
  exact kind.fits_write (holds.fits fits a ha)

theorem Settings.namesFit_members (s : Settings) : ∀ m ∈ s.members,
    (Yaml.scalar m.1).toList.length ≤ Yaml.Layout.keyLimit ∧ m.2.NamesFit := by
  intro m hm
  have hnames : ∀ name ∈ fields, (Yaml.scalar name).toList.length ≤ Yaml.Layout.keyLimit := by
    decide
  obtain ⟨α, kind, o, holds, a, ha, hwrite⟩ := exists_holds hm
  rw [hwrite]
  exact ⟨hnames m.1 (s.names_sublist.subset (List.mem_map_of_mem hm)), kind.namesFit_write a⟩

theorem Profile.fits_toValue {p : Profile} (fits : p.settings.Fits) : p.toValue.Fits := by
  rw [toValue, Value.Fits, Value.fitMembers_iff, List.forall_mem_append]
  refine ⟨?_, Settings.fits_members fits⟩
  have htexts : (Value.texts p.scenarios).Fits := Value.fits_list fun _ _ => trivial
  simp [Value.Fits, htexts]

theorem Profile.namesFit_toValue (p : Profile) : p.toValue.NamesFit := by
  rw [toValue, Value.NamesFit, Value.namesFitMembers_iff, List.forall_mem_append]
  refine ⟨?_, p.settings.namesFit_members⟩
  have htexts : (Value.texts p.scenarios).NamesFit :=
    Value.namesFitAll_iff.2 (List.forall_mem_map.2 fun _ _ => trivial)
  have hnames : ∀ name ∈ fields, (Yaml.scalar name).toList.length ≤ Yaml.Layout.keyLimit := by
    decide
  simp only [fields, List.forall_mem_cons] at hnames
  simp [Value.NamesFit, htexts, hnames]

namespace SettingsFile

variable {f : SettingsFile} {files made files' : FileTree} {path target : String}

theorem fits_toValue (fits : f.Fits) : f.toValue.Fits := by
  rw [toValue, Value.Fits, Value.fitMembers_iff]
  have hengine : (Value.object f.engine.members).Fits :=
    Value.fitMembers_iff.2 (Settings.fits_members fits.engine)
  have hprofiles := Value.fits_list fun p hp => Profile.fits_toValue (fits.profiles p hp)
  simp [Value.Fits] at hengine hprofiles ⊢
  exact ⟨hengine, hprofiles⟩

theorem namesFit_toValue (f : SettingsFile) : f.toValue.NamesFit := by
  have hengine : (Value.object f.engine.members).NamesFit :=
    Value.namesFitMembers_iff.2 f.engine.namesFit_members
  have hprofiles : (Value.list (f.profiles.map Profile.toValue)).NamesFit :=
    Value.namesFitAll_iff.2 (List.forall_mem_map.2 fun p _ => p.namesFit_toValue)
  exact ⟨by decide, trivial, by decide, hengine, by decide, hprofiles, trivial⟩

/-- Holds when a setting of a profile is misread. -/
def isMisread (f : SettingsFile) : Bool :=
  f.profiles.any fun p => p.settings.texts.any Yaml.misreads

theorem isMisread_eq_false : f.isMisread = false ↔
    ∀ p ∈ f.profiles, ∀ t ∈ p.settings.texts, DocumentFormat.yaml.Keeps t := by
  simp [isMisread, DocumentFormat.keeps_yaml]

/-- **The text of a file is read back**, but for a YAML file with a profile that is misread. -/
theorem ofText?_print (fits : f.Fits) : ofText? path (print path f).toList =
    if isYamlPath path && f.isMisread then none else some f := by
  rw [ofText?, print]
  cases isYamlPath path with
  | false =>
    rw [if_neg Bool.false_ne_true, if_neg Bool.false_ne_true, Json.read?_pretty (fits_toValue fits)]
    have hread : ofNode? 124 (DocumentFormat.json.node f.toValue) = some f :=
      ofNode?_of_keeps fits fun _ _ t _ => DocumentFormat.keeps_json t
    exact hread
  | true =>
    rw [if_pos rfl, if_pos rfl, Yaml.read?_print f.namesFit_toValue, Option.bind_some]
    show ofNode? 125 (DocumentFormat.yaml.node f.toValue) = _
    cases hmisread : f.isMisread with
    | false => exact ofNode?_of_keeps fits (isMisread_eq_false.1 hmisread)
    | true =>
      refine Option.eq_none_iff_forall_ne_some.2 fun f' hread => ?_
      rw [isMisread_eq_false.2 (keeps_of_ofNode? hread)] at hmisread
      cases hmisread

/-- A file with the text of settings is loaded as these, but for a profile that is misread. -/
theorem load_of_content (h : files.readBytes path = .ok (Utf8.encode (print path f).toList))
    (fits : f.Fits) (hcheck : f.check = .ok ()) : load files path =
      if isYamlPath path && f.isMisread then .error (.malformed path) else .ok f := by
  have htext : files.readText path = .ok (print path f).toList := by
    rw [FileTree.readText, h]
    simp only [bind, Except.bind, Utf8.decode?_encode]
    rfl
  rw [load, htext]
  dsimp only
  rw [ofText?_print fits]
  cases isYamlPath path && f.isMisread with
  | true => rfl
  | false =>
    rw [if_neg Bool.false_ne_true]
    dsimp only
    rw [hcheck]
    rfl

theorem save_eq_ok (h : save made target f = .ok files') : ∃ ready : FileTree,
    ready.write target (Utf8.encode (print target f).toList) = .ok files' := by
  simp only [save, bind_eq_ok, mapError_eq_ok] at h
  obtain ⟨ready, -, hwrite⟩ := h
  exact ⟨ready, hwrite⟩

/-- **Settings that have been loaded are saved and loaded again as they were**, wherever they are
saved, but for a profile in a YAML file with a text that is a number by itself: one in another base
than ten, or an infinite one.  Such a file cannot be loaded. -/
theorem load_after_save (loaded : load files path = .ok f)
    (saved : save made target f = .ok files') : load files' target =
      if isYamlPath target && f.isMisread then .error (.malformed target) else .ok f := by
  obtain ⟨ready, hwrite⟩ := save_eq_ok saved
  exact load_of_content (FileTree.readBytes_write_self hwrite) (fits_of_load loaded)
    (exists_text_of_load loaded).2

/-- A file with texts that look like other values. -/
def oddTexts : SettingsFile where
  version := currentVersion
  engine := { Settings.none with simulator := some "null", testType := some "yes" }
  profiles := [{
    name := "~"
    description := "- a: b #c"
    scenarios := ["5", "true"]
    settings := { Settings.none with
      simulator := some "0x1f", launcher := some "1e3", searchPaths := some ["no", "", "a"] } }]

/-- A file with a profile whose simulator is called like a number in base eight. -/
def octalPath : SettingsFile where
  version := currentVersion
  engine := .none
  profiles := [{
    name := "p"
    description := ""
    scenarios := []
    settings := { Settings.none with simulator := some "0o17" } }]

/-- A directory with a settings file in JSON. -/
def savedAsJson (f : SettingsFile) : FileTree :=
  ⟨[(["a.json"], .file (Utf8.encode (print "a.json" f).toList))], []⟩

/-- The directory with the same settings in YAML as well. -/
def savedAsYaml (f : SettingsFile) : FileTree :=
  (savedAsJson f).put ["b.yaml"] (.file (Utf8.encode (print "b.yaml" f).toList))

theorem load_savedAsJson (fits : f.Fits) (hcheck : f.check = .ok ()) :
    load (savedAsJson f) "a.json" = .ok f := by
  have hread : (savedAsJson f).readBytes "a.json" =
      .ok (Utf8.encode (print "a.json" f).toList) := rfl
  have hpath : isYamlPath "a.json" = false := by decide
  rw [load_of_content hread fits hcheck, hpath]
  rfl

theorem save_savedAsJson (f : SettingsFile) :
    save (savedAsJson f) "b.yaml" f = .ok (savedAsYaml f) := rfl

/-- Texts that look like other values are kept in YAML. -/
theorem oddTexts_reloaded : load (savedAsJson oddTexts) "a.json" = .ok oddTexts ∧
    save (savedAsJson oddTexts) "b.yaml" oddTexts = .ok (savedAsYaml oddTexts) ∧
    load (savedAsYaml oddTexts) "b.yaml" = .ok oddTexts := by
  have fits : oddTexts.Fits :=
    ⟨Settings.fits_of_le (by decide) (by decide) (by decide) (by decide),
      List.forall_mem_singleton.2
        (Settings.fits_of_le (by decide) (by decide) (by decide) (by decide))⟩
  have loaded := load_savedAsJson fits (by decide)
  have reloaded := load_after_save loaded (save_savedAsJson oddTexts)
  rw [show (isYamlPath "b.yaml" && oddTexts.isMisread) = false by decide] at reloaded
  exact ⟨loaded, save_savedAsJson oddTexts, reloaded⟩

/-- **A file that has been loaded and saved in YAML cannot be loaded again**, if a profile has a
path that is a number in base eight. -/
theorem octalPath_lost : load (savedAsJson octalPath) "a.json" = .ok octalPath ∧
    save (savedAsJson octalPath) "b.yaml" octalPath = .ok (savedAsYaml octalPath) ∧
    load (savedAsYaml octalPath) "b.yaml" = .error (.malformed "b.yaml") := by
  have fits : octalPath.Fits :=
    ⟨Settings.fits_none, List.forall_mem_singleton.2
      (Settings.fits_of_le (by decide) (by decide) (by decide) (by decide))⟩
  have hread : (savedAsYaml octalPath).readBytes "b.yaml" =
      .ok (Utf8.encode (print "b.yaml" octalPath).toList) := rfl
  have reloaded := load_of_content hread fits (by decide)
  rw [show (isYamlPath "b.yaml" && octalPath.isMisread) = true by decide] at reloaded
  exact ⟨load_savedAsJson fits (by decide), save_savedAsJson octalPath, reloaded⟩

end SettingsFile

end SuiteRunner
