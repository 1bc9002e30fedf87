import Mathlib.Data.List.Nodup
import SuiteRunner.Proofs.FileChanges
import SuiteRunner.Proofs.JsonReading
import SuiteRunner.Proofs.Utf8Reading
import SuiteRunner.Store

/-!
# Saved runs are loaded as they were

The document of a run names every field once, and the reader of each field undoes what its writer
has made of it.

* `Record.ofNode?_object`, the fields of an object with different names;
* `CaseResult.ofNode?_node`, `SuiteSummary.ofNode?_node`, `RunSummary.ofNode?_node` and
  `Config.ofNode?_node`, one lemma for each record;
* `StoredRun.Keeps`, what the text of a run keeps: whole numbers in their ranges, and points in
  time;
* **`StoredRun.ofNode?_node`** and `StoredRun.fits_toValue`, the document of a run;
* **`RunStore.load_of_save`** — a saved run is loaded with all its fields.
-/

namespace SuiteRunner

/-! ### Fields -/

namespace Record

/-- The fields of an object. -/
def ofMembers (ms : List (String × Value)) : Record := .named (ms.map fun m => (m.1, m.2.node))

theorem fieldsOf?_entries (ms : List (String × Value)) :
    fieldsOf? (Value.entries ms) = some (ms.map fun m => (m.1, m.2.node)) := by
  induction ms with
  | nil => rfl
  | cons m ms ih =>
    obtain ⟨name, v⟩ := m
    rw [Value.entries, fieldsOf?, ih]
    rfl

/-- Fields with different names are unambiguous. -/
theorem isUnambiguous_of_nodup {fields : List (String × Node)}
    (distinct : (fields.map Prod.fst).Nodup) (names : List String) :
    isUnambiguous names fields = true := by
  rw [isUnambiguous, List.all_eq_true]
  intro name _
  have hcount := List.nodup_iff_count_le_one.1 distinct name
  rw [List.count_eq_countP, List.countP_map, List.countP_eq_length_filter] at hcount
  rw [decide_eq_true_eq]
  exact hcount

/-- An object whose members have different names is a record of them. -/
theorem ofNode?_object {ms : List (String × Value)} (distinct : (ms.map Prod.fst).Nodup)
    (names : List String) : ofNode? names (Value.object ms).node = some (ofMembers ms) := by
  have hone : isUnambiguous names (ms.map fun m => (m.1, m.2.node)) = true :=
    isUnambiguous_of_nodup (by rwa [List.map_map]) names
  rw [Value.node, ofNode?, fieldsOf?_entries]
  simp [hone, ofMembers]

variable {α : Type} {ms : List (String × Value)} {name : String} {v : Value}
  {read : Node → Option α}

/-- Looks for a field among members that are read. -/
theorem lookup_map_node (node : Value → Node) (ms : List (String × Value)) (name : String) :
    (ms.map fun m => (m.1, node m.2)).lookup name = (ms.lookup name).map node := by
  induction ms with
  | nil => rfl
  | cons m ms ih =>
    obtain ⟨n, v⟩ := m
    rw [List.map_cons, List.lookup_cons, List.lookup_cons]
    cases name == n with
    | true => rfl
    | false => exact ih

theorem field?_ofMembers (ms : List (String × Value)) (name : String) :
    (ofMembers ms).field? name = (ms.lookup name).map Value.node := lookup_map_node _ ms name

theorem required_ofMembers (ms : List (String × Value)) (name : String) (read : Node → Option α) :
    (ofMembers ms).required name read = (ms.lookup name).bind fun v => read v.node := by
  rw [required, field?_ofMembers, Option.bind_map]
  rfl

theorem withDefault_ofMembers (ms : List (String × Value)) (name : String) (default : α)
    (read : Node → Option α) : (ofMembers ms).withDefault name default read =
      match ms.lookup name with
      | none => some default
      | some v => read v.node := by
  rw [withDefault, field?_ofMembers]
  cases ms.lookup name <;> rfl

theorem nullable_ofMembers (ms : List (String × Value)) (name : String) (read : Node → Option α) :
    (ofMembers ms).nullable name read =
      match ms.lookup name with
      | none => some none
      | some v => Node.option? read v.node := by
  have hfield := field?_ofMembers ms name
  rw [ofMembers] at hfield ⊢
  cases h : ms.lookup name <;> simp [nullable, hfield, h]

end Record

/-! ### Values -/

section Values

variable {n : Nat}

theorem text?_text (s : String) : (Value.text s).node.text? = some s := rfl

theorem bool?_bool (b : Bool) : (Value.bool b).node.bool? = some b := rfl

theorem nat?_nat {max : Nat} (h : n ≤ max) : Node.nat? max (Value.nat n).node = some n := by
  have hle : (n : Int) ≤ max := Int.ofNat_le.2 h
  simp [Value.nat, Value.node, Node.nat?, Node.scalar?, hle]

theorem option?_textOrNull (o : Option String) :
    Node.option? Node.text? (Value.textOrNull o).node = some o := by
  cases o <;> rfl

theorem option?_natOrNull {max : Nat} {o : Option Nat} (h : ∀ n ∈ o, n ≤ max) :
    Node.option? (Node.nat? max) (Value.natOrNull o).node = some o := by
  cases o with
  | none => rfl
  | some n =>
    have hread := nat?_nat (h n rfl)
    rw [Value.nat, Value.node] at hread
    simp [Value.natOrNull, Value.nat, Value.node, Node.option?, Node.isNull?, hread]

/-- What has been written item by item is read item by item. -/
theorem mapM_map_eq_some {α β γ : Type} {read : β → Option γ} {write : α → β} {value : α → γ}
    {xs : List α} (h : ∀ x ∈ xs, read (write x) = some (value x)) :
    (xs.map write).mapM read = some (xs.map value) := by
  induction xs with
  | nil => rfl
  | cons x xs ih =>
    rw [List.map_cons, List.mapM_cons, h x List.mem_cons_self,
      ih fun y hy => h y (List.mem_cons_of_mem _ hy)]
    rfl

/-- What is read item by item is read in every item. -/
theorem exists_of_mapM {α β : Type} {read : α → Option β} {xs : List α} {ys : List β}
    (h : xs.mapM read = some ys) : ∀ x ∈ xs, ∃ y ∈ ys, read x = some y := by
  induction xs generalizing ys with
  | nil => simp
  | cons x xs ih =>
    simp only [List.mapM_cons, Option.bind_eq_bind, Option.bind_eq_some_iff] at h
    obtain ⟨y, hy, rest, hrest, h⟩ := h
    cases h
    refine List.forall_mem_cons.2 ⟨⟨y, List.mem_cons_self, hy⟩, fun x' hx' => ?_⟩
    obtain ⟨y', hy', hread⟩ := ih hrest x' hx'
    exact ⟨y', List.mem_cons_of_mem _ hy', hread⟩

/-- A list is read item by item. -/
theorem list?_list {α : Type} {read : Node → Option α} {write : α → Value} {xs : List α}
    (h : ∀ x ∈ xs, read (write x).node = some x) :
    Node.list? read (Value.list (xs.map write)).node = some xs := by
  rw [Value.node, Value.nodes_eq_map, List.map_map, Node.list?]
  exact (mapM_map_eq_some h).trans (congrArg some (List.map_id' xs))

theorem readTexts?_texts (xs : List String) : readTexts? (Value.texts xs).node = some xs :=
  list?_list fun _ _ => rfl

theorem Status.ofNode?_name (s : Status) : Status.ofNode? (Value.text s.name).node = some s := by
  cases s <;> rfl

end Values

/-! ### Results -/

/-- The point in time is read from its text. -/
def Instant.Reads (t : Instant) : Prop := Instant.ofText? t.text = some t

instance (t : Instant) : Decidable t.Reads := inferInstanceAs (Decidable (_ = _))

theorem readInstant?_text {t : Instant} (h : t.Reads) :
    readInstant? (Value.text t.text).node = some t := by
  show (some t.text).bind Instant.ofText? = some t
  rw [Option.bind_some]
  exact h

theorem CaseResult.ofNode?_node {r : CaseResult} (h : r.durationMs ≤ Numeral.max64) :
    CaseResult.ofNode? r.toValue.node = some r := by
  rw [CaseResult.ofNode?, toValue, Record.ofNode?_object (by simp)]
  simp [Record.required_ofMembers, Record.withDefault_ofMembers, Record.nullable_ofMembers,
    List.lookup_cons, text?_text, bool?_bool, option?_textOrNull, Status.ofNode?_name, readNat64?,
    nat?_nat h]

/-- All counts have 64 bits. -/
structure Counts.Fit (c : Counts) : Prop where
  total : c.total ≤ Numeral.max64
  passed : c.passed ≤ Numeral.max64
  failed : c.failed ≤ Numeral.max64
  skipped : c.skipped ≤ Numeral.max64
  errors : c.errors ≤ Numeral.max64
  durationMs : c.durationMs ≤ Numeral.max64

/-- The counts among the members of an object are read. -/
theorem Counts.ofRecord?_members {c : Counts} (h : c.Fit) {before : List (String × Value)}
    (others : ∀ m ∈ before, m.1 ∉ Counts.fields) (after : List (String × Value)) :
    Counts.ofRecord? (.ofMembers (before ++ c.members ++ after)) = some c := by
  have hlookup : ∀ name ∈ Counts.fields,
      (before ++ c.members ++ after).lookup name = (c.members ++ after).lookup name := by
    intro name hname
    have hnone : before.lookup name = none := by
      rw [List.lookup_eq_none_iff]
      rintro ⟨n, v⟩ hm
      simpa using fun heq : name = n => others (n, v) hm (heq ▸ hname)
    rw [List.append_assoc, List.lookup_append, hnone, Option.none_or]
  simp only [Counts.fields, List.forall_mem_cons] at hlookup
  obtain ⟨htotal, hpassed, hfailed, hskipped, herrors, hduration, -⟩ := hlookup
  simp only [Counts.ofRecord?, Record.required_ofMembers, htotal, hpassed, hfailed, hskipped,
    herrors, hduration]
  simp [members, List.lookup_cons, readNat64?, nat?_nat h.total, nat?_nat h.passed,
    nat?_nat h.failed, nat?_nat h.skipped, nat?_nat h.errors, nat?_nat h.durationMs]

/-- What the document of the summary of a suite keeps. -/
structure SuiteSummary.Keeps (s : SuiteSummary) : Prop where
  startedAt : s.startedAt.Reads
  counts : s.counts.Fit
  results : ∀ r ∈ s.results, r.durationMs ≤ Numeral.max64

theorem SuiteSummary.ofNode?_node {s : SuiteSummary} (h : s.Keeps) :
    SuiteSummary.ofNode? s.toValue.node = some s := by
  have hothers : ∀ m ∈ [("suite", Value.text s.suite), ("class_name", .text s.className),
      ("started_at", .text s.startedAt.text)], m.1 ∉ Counts.fields := by simp [Counts.fields]
  have hcounts := Counts.ofRecord?_members h.counts hothers
    [("results", .list (s.results.map CaseResult.toValue))]
  have hresults := list?_list fun r hr => CaseResult.ofNode?_node (h.results r hr)
  rw [SuiteSummary.ofNode?, toValue, Record.ofNode?_object (by simp [Counts.members])]
  simp only [Option.bind_eq_bind, Option.bind_some, hcounts]
  simp [Record.required_ofMembers, Counts.members, List.lookup_cons, text?_text, hresults,
    readInstant?_text h.startedAt]

/-- What the document of the summary of a run keeps. -/
structure RunSummary.Keeps (s : RunSummary) : Prop where
  suites : ∀ u ∈ s.suites, u.Keeps
  counts : s.counts.Fit

theorem RunSummary.ofNode?_node {s : RunSummary} (h : s.Keeps) :
    RunSummary.ofNode? s.toValue.node = some s := by
  have hothers : ∀ m ∈ [("suites", Value.list (s.suites.map SuiteSummary.toValue))],
      m.1 ∉ Counts.fields := by simp [Counts.fields]
  have hcounts := Counts.ofRecord?_members h.counts hothers
    [("interrupted", .bool s.interrupted)]
  have hsuites := list?_list fun u hu => SuiteSummary.ofNode?_node (h.suites u hu)
  rw [RunSummary.ofNode?, toValue, Record.ofNode?_object (by simp [Counts.members])]
  simp only [Option.bind_eq_bind, Option.bind_some, hcounts]
  simp [Record.required_ofMembers, Counts.members, List.lookup_cons, bool?_bool, hsuites]

/-! ### Runs -/

/-- The numbers of a configuration are in their ranges. -/
structure Config.Fit (c : Config) : Prop where
  ranks : c.ranks ≤ Numeral.max32
  threads : c.threads ≤ Numeral.max32
  concurrency : c.concurrency ≤ Numeral.max64
  timeoutSecs : c.timeoutSecs ≤ Numeral.max64
  timeoutOverride : ∀ n ∈ c.timeoutOverride, n ≤ Numeral.max64

/-- What is left to read of the document of a configuration, once its fields are found. -/
theorem Config.ofNode?_eq (c : Config) : Config.ofNode? c.toValue.node = (do
    let ranks ← readNat32? (Value.nat c.ranks).node
    let threads ← readNat32? (Value.nat c.threads).node
    let concurrency ← readNat64? (Value.nat c.concurrency).node
    let timeoutSecs ← readNat64? (Value.nat c.timeoutSecs).node
    let timeoutOverride ← Node.option? readNat64? (Value.natOrNull c.timeoutOverride).node
    let scenarios ← readTexts? (Value.texts c.scenarios).node
    let reportDir ← Node.option? Node.text? (Value.textOrNull c.reportDir).node
    let pattern ← Node.option? Node.text? (Value.textOrNull c.pattern).node
    let searchPaths ← readTexts? (Value.texts c.searchPaths).node
    let installFile ← Node.option? Node.text? (Value.textOrNull c.installFile).node
    return { c with
      ranks, threads, concurrency, timeoutSecs, timeoutOverride, scenarios, reportDir, pattern,
      searchPaths, installFile }) := by
  rw [Config.ofNode?, toValue, Record.ofNode?_object (by simp)]
  rfl

theorem Config.ofNode?_node {c : Config} (h : c.Fit) : Config.ofNode? c.toValue.node = some c := by
  have hranks : readNat32? (Value.nat c.ranks).node = some c.ranks := nat?_nat h.ranks
  have hthreads : readNat32? (Value.nat c.threads).node = some c.threads := nat?_nat h.threads
  have hconcurrency : readNat64? (Value.nat c.concurrency).node = some c.concurrency :=
    nat?_nat h.concurrency
  have htimeout : readNat64? (Value.nat c.timeoutSecs).node = some c.timeoutSecs :=
    nat?_nat h.timeoutSecs
  have hoverride : Node.option? readNat64? (Value.natOrNull c.timeoutOverride).node =
      some c.timeoutOverride := option?_natOrNull h.timeoutOverride
  rw [Config.ofNode?_eq, hranks, hthreads, hconcurrency, htimeout, hoverride, readTexts?_texts,
    readTexts?_texts, option?_textOrNull, option?_textOrNull, option?_textOrNull]
  rfl

namespace StoredRun

variable {r : StoredRun}

/-- What the document of a run keeps: points in time that are read from their texts, and numbers
that are in their ranges. -/
structure Keeps (r : StoredRun) : Prop where
  startedAt : r.startedAt.Reads
  completedAt : r.completedAt.Reads
  summary : r.summary.Keeps
  config : r.config.Fit

/-- **The document of a run is read with all its fields.** -/
theorem ofNode?_node (h : r.Keeps) : StoredRun.ofNode? r.toValue.node = some r := by
  have hplatform : readPlatform? (Value.object [("os", .text r.platform.os),
      ("arch", .text r.platform.arch), ("tool_version", .text r.platform.toolVersion)]).node =
      some r.platform := by
    rw [readPlatform?, Record.ofNode?_object (by simp)]
    simp [Record.required_ofMembers, List.lookup_cons, text?_text]
  rw [StoredRun.ofNode?, toValue, Record.ofNode?_object (by simp)]
  simp [Record.required_ofMembers, List.lookup_cons, text?_text, hplatform,
    readInstant?_text h.startedAt, readInstant?_text h.completedAt,
    RunSummary.ofNode?_node h.summary, Config.ofNode?_node h.config]

end StoredRun

/-! ### The text of a run -/

namespace Value

theorem fits_nat {n : Nat} (h : n ≤ Numeral.max64) : (nat n).Fits := by
  have hle : (n : Int) ≤ Numeral.max64 := Int.ofNat_le.2 h
  rw [Numeral.max64] at hle
  simp only [nat, Fits, Node.fits64, Bool.and_eq_true, decide_eq_true_eq]
  omega

theorem fits_textOrNull (o : Option String) : (textOrNull o).Fits := by
  cases o <;> trivial

theorem fits_natOrNull {o : Option Nat} (h : ∀ n ∈ o, n ≤ Numeral.max64) :
    (natOrNull o).Fits := by
  cases o with
  | none => trivial
  | some n => exact fits_nat (h n rfl)

/-- A list fits if the documents of its items do. -/
theorem fits_list {α : Type} {write : α → Value} {xs : List α} (h : ∀ x ∈ xs, (write x).Fits) :
    (list (xs.map write)).Fits := by
  rw [Fits, fitAll_iff]
  exact List.forall_mem_map.2 h

end Value

theorem Counts.fits_members {c : Counts} (h : c.Fit) : ∀ m ∈ c.members, m.2.Fits := by
  simp [Counts.members, Value.fits_nat h.total, Value.fits_nat h.passed, Value.fits_nat h.failed,
    Value.fits_nat h.skipped, Value.fits_nat h.errors, Value.fits_nat h.durationMs]

theorem CaseResult.fits_toValue {x : CaseResult} (h : x.durationMs ≤ Numeral.max64) :
    x.toValue.Fits := by
  rw [CaseResult.toValue, Value.Fits, Value.fitMembers_iff]
  simp [Value.Fits, Value.fits_textOrNull, Value.fits_nat h]

theorem SuiteSummary.fits_toValue {s : SuiteSummary} (h : s.Keeps) : s.toValue.Fits := by
  rw [SuiteSummary.toValue, Value.Fits, Value.fitMembers_iff]
  have hresults := Value.fits_list fun x hx => CaseResult.fits_toValue (h.results x hx)
  simp only [List.forall_mem_append, List.forall_mem_cons]
  exact ⟨⟨by simp [Value.Fits], Counts.fits_members h.counts⟩, hresults, by simp⟩

theorem RunSummary.fits_toValue {s : RunSummary} (h : s.Keeps) : s.toValue.Fits := by
  rw [RunSummary.toValue, Value.Fits, Value.fitMembers_iff]
  have hsuites := Value.fits_list fun u hu => SuiteSummary.fits_toValue (h.suites u hu)
  simp only [List.forall_mem_append, List.forall_mem_cons]
  exact ⟨⟨⟨hsuites, by simp⟩, Counts.fits_members h.counts⟩, by simp [Value.Fits]⟩

theorem Config.fits_toValue {c : Config} (h : c.Fit) : c.toValue.Fits := by
  have hless : Numeral.max32 ≤ Numeral.max64 := by decide
  have htexts : ∀ xs : List String, (Value.texts xs).Fits :=
    fun _ => Value.fits_list fun _ _ => trivial
  rw [Config.toValue, Value.Fits, Value.fitMembers_iff]
  simp [Value.Fits, Value.fits_textOrNull, htexts, Value.fits_nat (Nat.le_trans h.ranks hless),
    Value.fits_nat (Nat.le_trans h.threads hless), Value.fits_nat h.concurrency,
    Value.fits_nat h.timeoutSecs, Value.fits_natOrNull h.timeoutOverride]

theorem StoredRun.fits_toValue {r : StoredRun} (h : r.Keeps) : r.toValue.Fits := by
  rw [StoredRun.toValue, Value.Fits, Value.fitMembers_iff]
  simp [Value.Fits, Value.FitMembers, RunSummary.fits_toValue h.summary,
    Config.fits_toValue h.config]

/-! ### The file of a run -/

namespace RunStore

variable {files files' : FileTree} {path : String} {r : StoredRun}

/-- **A file that holds the text of a run is read as this run**, with all its fields. -/
theorem read?_of_content (h : files.readBytes path = .ok (Utf8.encode (content r).toList))
    (keeps : r.Keeps) : read? files path = some r := by
  have htext : files.readText path = .ok (content r).toList := by
    rw [FileTree.readText, h]
    simp only [bind, Except.bind, Utf8.decode?_encode]
    rfl
  rw [read?, htext]
  simp only [Except.toOption, Option.bind_eq_bind, Option.bind_some]
  rw [content, Json.read?_pretty (StoredRun.fits_toValue keeps), Option.bind_some,
    StoredRun.ofNode?_node keeps]

theorem load_of_content {store : RunStore} {id : String}
    (h : files.readBytes (store.path id) = .ok (Utf8.encode (content r).toList))
    (keeps : r.Keeps) : store.load files id = .ok r := by
  obtain ⟨l, hlocate, hentry⟩ := FileTree.readBytes_eq_ok.1 h
  rw [load, FileTree.find_eq_ok.2 ⟨hlocate, hentry⟩]
  simp only [read?_of_content h keeps]

/-- What is saved is the text of the run, in the file that is called after it. -/
theorem save_eq_ok {store : RunStore} {saved : String}
    (h : store.save files r = .ok (saved, files')) :
    ∃ made, files.createDirectories store.dir = .ok made ∧
      made.write (store.path r.id) (Utf8.encode (content r).toList) = .ok files' ∧
      saved = store.path r.id := by
  simp only [save, bind_eq_ok, mapError_eq_ok] at h
  obtain ⟨made, hmade, left, hwrite, h⟩ := h
  cases h
  exact ⟨made, hmade, hwrite, rfl⟩

/-- **A saved run is loaded with all its fields.** -/
theorem load_of_save {store : RunStore} {saved : String}
    (h : store.save files r = .ok (saved, files')) (keeps : r.Keeps) :
    store.load files' r.id = .ok r := by
  obtain ⟨made, -, hwrite, -⟩ := save_eq_ok h
  exact load_of_content (FileTree.readBytes_write_self hwrite) keeps

end RunStore

end SuiteRunner
