import SuiteRunner.Config.Layers
import SuiteRunner.Proofs.Paths
import SuiteRunner.Proofs.TextLines

/-!
# White space around the values of variables

Numbers, lists and switches are read from variables.  A number is read without the white space
around it and so is each text of a list, but a word that switches something on is compared as it is.
White space around the values thus changes nothing but one thing: what was switched on by a word no
longer is.

* `Text.Pads`, a text with white space around it, with `Text.Pads.trim_eq` and
  `Text.Pads.isBlank_eq`;
* `EnvSettings.splitList_of_pads`, `EnvSettings.isOn_of_pads` — a list stays as it is, and a switch
  word is none any more;
* `Environment.Pads`, white space around the values of variables, with
  `Environment.Pads.of_bindings`;
* **`EnvSettings.ofEnvironment_of_pads`** — what the environment says then.
-/

namespace SuiteRunner

open Unicode

/-- Two optional values that are related are both there, or neither is. -/
theorem rel_cases {α β : Type} {R : α → β → Prop} {o : Option α} {o' : Option β}
    (h : Option.Rel R o o') :
    (o = none ∧ o' = none) ∨ ∃ a b, o = some a ∧ o' = some b ∧ R a b := by
  cases h with
  | none => exact .inl ⟨rfl, rfl⟩
  | some h => exact .inr ⟨_, _, rfl, rfl, h⟩

/-! ### Texts -/

namespace Text

variable {v w : String} {white : List Char}

/-- The second text is the first one with white space around it. -/
def Pads (v w : String) : Prop :=
  ∃ front back : List Char, (∀ c ∈ front, isWhite c = true) ∧ (∀ c ∈ back, isWhite c = true) ∧
    w.toList = front ++ v.toList ++ back

theorem trim_append_of_white (s : List Char) (h : ∀ c ∈ white, isWhite c = true) :
    trim (s ++ white) = trim s := by
  rw [← trim_trimEnd, trimEnd_append_of_white s h, trim_trimEnd]

theorem trim_of_white_append (s : List Char) (h : ∀ c ∈ white, isWhite c = true) :
    trim (white ++ s) = trim s := by
  rw [trim, trim, trimStart, trimStart, List.dropWhile_append_of_pos h]

theorem Pads.trim_eq (h : Pads v w) : trim w.toList = trim v.toList := by
  obtain ⟨front, back, hfront, hback, hw⟩ := h
  rw [hw, trim_append_of_white _ hback, trim_of_white_append _ hfront]

theorem Pads.isBlank_eq (h : Pads v w) : isBlank w.toList = isBlank v.toList := by
  obtain ⟨front, back, hfront, hback, hw⟩ := h
  rw [hw, isBlank, isBlank, List.all_append, List.all_append, List.all_eq_true.2 hfront,
    List.all_eq_true.2 hback, Bool.true_and, Bool.and_true]

/-! ### Lists -/

variable {sep : Char} (hsep : isWhite sep = false)

include hsep

theorem notMem_of_white (h : ∀ c ∈ white, isWhite c = true) : sep ∉ white := by
  intro hmem
  rw [h sep hmem] at hsep
  cases hsep

/-- White space in front of a text belongs to its first piece. -/
theorem map_trim_splitOn_of_white_append (s : List Char) (h : ∀ c ∈ white, isWhite c = true) :
    ((white ++ s).splitOn sep).map trim = (s.splitOn sep).map trim := by
  have hfree := notMem_of_white hsep h
  by_cases hs : sep ∈ s
  · obtain ⟨piece, rest, rfl, hpiece⟩ := List.eq_append_cons_of_mem hs
    have hpadded : sep ∉ white ++ piece := by simp [hfree, hpiece]
    rw [← List.append_assoc, List.splitOn_append_cons_self, List.splitOn_append_cons_self,
      List.splitOn_eq_singleton hpiece, List.splitOn_eq_singleton hpadded, List.map_append,
      List.map_append, List.map_singleton, List.map_singleton, trim_of_white_append _ h]
  · have hpadded : sep ∉ white ++ s := by simp [hfree, hs]
    rw [List.splitOn_eq_singleton hs, List.splitOn_eq_singleton hpadded, List.map_singleton,
      List.map_singleton, trim_of_white_append _ h]

/-- White space at the end of a text belongs to its last piece. -/
theorem map_trim_splitOn_append_of_white (s : List Char) (h : ∀ c ∈ white, isWhite c = true) :
    ((s ++ white).splitOn sep).map trim = (s.splitOn sep).map trim := by
  have hfree := notMem_of_white hsep h
  by_cases hs : sep ∈ s.reverse
  · obtain ⟨piece, rest, hsplit, hpiece⟩ := List.eq_append_cons_of_mem hs
    obtain rfl : s = rest.reverse ++ sep :: piece.reverse := by
      rw [← List.reverse_reverse s, hsplit]
      simp
    have hlast : sep ∉ piece.reverse := by simpa using hpiece
    have hpadded : sep ∉ piece.reverse ++ white := by simp [hfree, hpiece]
    rw [List.append_assoc, List.cons_append, List.splitOn_append_cons_self,
      List.splitOn_append_cons_self, List.splitOn_eq_singleton hlast,
      List.splitOn_eq_singleton hpadded, List.map_append, List.map_append, List.map_singleton,
      List.map_singleton, trim_append_of_white _ h]
  · have hnone : sep ∉ s := by simpa using hs
    have hpadded : sep ∉ s ++ white := by simp [hfree, hnone]
    rw [List.splitOn_eq_singleton hnone, List.splitOn_eq_singleton hpadded, List.map_singleton,
      List.map_singleton, trim_append_of_white _ h]

end Text

namespace EnvSettings

open Text

variable {v w : String} {e e' : Environment} {name : String}

/-- **A list does not change** by white space around it. -/
theorem splitList_of_pads (h : Pads v w) : splitList w = splitList v := by
  obtain ⟨front, back, hfront, hback, hw⟩ := h
  have hcomma : isWhite ',' = false := by decide
  rw [splitList, splitList, hw, splitOn_eq, splitOn_eq,
    map_trim_splitOn_append_of_white hcomma _ hback,
    map_trim_splitOn_of_white_append hcomma _ hfront]

/-! ### Switches -/

theorem lowerAscii_of_isWhite {c : Char} (h : isWhite c = true) : Yaml.lowerAscii c = c := by
  rw [Yaml.lowerAscii, if_neg]
  intro hletter
  rw [Bool.and_eq_true, decide_eq_true_iff, decide_eq_true_iff] at hletter
  have hlow : 65 ≤ c.toNat := hletter.1
  have hhigh : c.toNat ≤ 90 := hletter.2
  have hascii : c.toNat < 0x80 := by omega
  simp only [isWhite, if_pos hascii, Bool.or_eq_true, beq_iff_eq, Bool.and_eq_true,
    decide_eq_true_iff] at h
  omega

/-- There is no white space in a word that switches something on. -/
theorem isWhite_of_isOn (h : isOn w = true) {c : Char} (hc : c ∈ w.toList) : isWhite c = false := by
  have hmem : String.ofList (w.toList.map Yaml.lowerAscii) ∈ switchWords :=
    List.contains_iff_mem.1 h
  have hwords : ∀ word ∈ switchWords, ∀ d ∈ word.toList, isWhite d = false := by decide +kernel
  have hlower : isWhite (Yaml.lowerAscii c) = false := by
    refine hwords _ hmem _ ?_
    rw [String.toList_ofList]
    exact List.mem_map_of_mem hc
  by_contra hwhite
  rw [Bool.not_eq_false] at hwhite
  rw [lowerAscii_of_isWhite hwhite, hwhite] at hlower
  cases hlower

/-- **A word with white space around it switches nothing on**, whatever it was without it. -/
theorem isOn_of_pads (h : Pads v w) (hne : w ≠ v) : isOn w = false := by
  obtain ⟨front, back, hfront, hback, hw⟩ := h
  by_contra hon
  rw [Bool.not_eq_false] at hon
  have hnone : ∀ white : List Char, (∀ c ∈ white, isWhite c = true) → white ⊆ w.toList →
      white = [] := by
    intro white hwhite hsub
    refine List.eq_nil_iff_forall_not_mem.2 fun c hc => ?_
    have hnot := isWhite_of_isOn hon (hsub hc)
    rw [hwhite c hc] at hnot
    cases hnot
  have hfront : front = [] := hnone front hfront fun c hc => by simp [hw, hc]
  have hback : back = [] := hnone back hback fun c hc => by simp [hw, hc]
  rw [hfront, hback, List.nil_append, List.append_nil] at hw
  exact hne (String.toList_inj.1 hw)

end EnvSettings

/-! ### Variables -/

namespace Environment

variable {e e' : Environment}

/-- The variables that hold numbers, a list, or a switch. -/
def typedNames : List String :=
  ["RANKS", "THREADS", "CONCURRENCY", "TIMEOUT", "TIMEOUT_OVERRIDE", "SCENARIOS", "VERBOSE"]

/-- Holds for the whole name of such a variable. -/
def IsTyped (name : String) : Prop := ∃ n ∈ typedNames, name = "SST_TEST_" ++ n

/-- The second environment has white space around the values of some of these variables, and is like
the first one otherwise. -/
structure Pads (e e' : Environment) : Prop where
  typed : ∀ n ∈ typedNames, Option.Rel Text.Pads (e.get? ("SST_TEST_" ++ n))
    (e'.get? ("SST_TEST_" ++ n))
  others : ∀ name, ¬ IsTyped name → e'.get? name = e.get? name

/-- White space is added to one variable after the other. -/
theorem Pads.of_bindings (h : List.Forall₂ (fun b b' => b'.1 = b.1 ∧ Text.Pads b.2 b'.2 ∧
      (b'.2 = b.2 ∨ IsTyped b.1)) e.bindings e'.bindings) : e.Pads e' := by
  have hrel : ∀ name, Option.Rel (fun v w => Text.Pads v w ∧ (w = v ∨ IsTyped name))
      (e.get? name) (e'.get? name) := by
    intro name
    rw [get?, get?]
    generalize e.bindings = bs at h ⊢
    generalize e'.bindings = bs' at h ⊢
    induction h with
    | nil => exact .none
    | @cons b b' bs bs' hb _ ih =>
      rw [List.lookup_cons, List.lookup_cons, hb.1]
      by_cases hname : name = b.1
      · subst hname
        simpa using hb.2
      · rw [beq_eq_false_iff_ne.2 hname]
        exact ih
  refine ⟨fun n hn => ?_, fun name hname => ?_⟩
  · obtain ⟨hv, hw⟩ | ⟨v, w, hv, hw, hpads, -⟩ := rel_cases (hrel ("SST_TEST_" ++ n))
    · rw [hv, hw]
      exact .none
    · rw [hv, hw]
      exact .some hpads
  · obtain ⟨hv, hw⟩ | ⟨v, w, hv, hw, -, hsame⟩ := rel_cases (hrel name)
    · rw [hv, hw]
    · rw [hv, hw, hsame.resolve_right hname]

end Environment

namespace EnvSettings

open Environment (typedNames)

variable {e e' : Environment} {name : String}

theorem value?_of_others (h : e.Pads e') (hname : name ∉ typedNames) :
    value? e' name = value? e name := by
  have hother : ¬ Environment.IsTyped ("SST_TEST_" ++ name) := by
    intro ⟨n, hn, heq⟩
    exact hname ((String.append_right_inj _).1 heq ▸ hn)
  rw [value?, value?, h.others _ hother]

/-- A value is blank with white space around it exactly if it was blank before. -/
theorem value?_of_pads (h : e.Pads e') (hname : name ∈ typedNames) :
    Option.Rel Text.Pads (value? e name) (value? e' name) := by
  rw [value?, value?]
  obtain ⟨hv, hw⟩ | ⟨v, w, hv, hw, hpads⟩ := rel_cases (h.typed name hname)
  · rw [hv, hw]
    exact .none
  · rw [hv, hw, Option.filter_some, Option.filter_some, hpads.isBlank_eq]
    split
    · exact .some hpads
    · exact .none

/-- **A number does not change** by white space around it. -/
theorem number?_of_pads (h : e.Pads e') (hname : name ∈ typedNames) (max : Nat) :
    number? e' max name = number? e max name := by
  rw [number?, number?]
  obtain ⟨hv, hw⟩ | ⟨v, w, hv, hw, hpads⟩ := rel_cases (value?_of_pads h hname)
  · rw [hv, hw]
  · rw [hv, hw, Option.bind_some, Option.bind_some, hpads.trim_eq]

theorem scenarios_of_pads (h : e.Pads e') :
    (value? e' "SCENARIOS").map splitList = (value? e "SCENARIOS").map splitList := by
  have hscenarios : "SCENARIOS" ∈ typedNames := by decide
  obtain ⟨hv, hw⟩ | ⟨v, w, hv, hw, hpads⟩ := rel_cases (value?_of_pads h hscenarios)
  · rw [hv, hw]
  · rw [hv, hw, Option.map_some, Option.map_some, splitList_of_pads hpads]

/-- A switch that is off stays off, and one that is on goes off when its value changes. -/
theorem verbose_of_pads (h : e.Pads e') :
    (value? e' "VERBOSE").map isOn =
      if (value? e "VERBOSE").map isOn = some true ∧
          e'.get? "SST_TEST_VERBOSE" ≠ e.get? "SST_TEST_VERBOSE" then some false
      else (value? e "VERBOSE").map isOn := by
  have hread : ∀ e : Environment, value? e "VERBOSE" =
      (e.get? "SST_TEST_VERBOSE").filter fun v => !Text.isBlank v.toList := fun _ => rfl
  have hrel : Option.Rel Text.Pads (e.get? "SST_TEST_VERBOSE") (e'.get? "SST_TEST_VERBOSE") :=
    h.typed "VERBOSE" (by decide)
  rw [hread, hread]
  obtain ⟨hv, hw⟩ | ⟨v, w, hv, hw, hpads⟩ := rel_cases hrel
  · simp [hv, hw]
  · rw [hv, hw]
    by_cases hsame : w = v
    · simp [hsame]
    · rw [Option.filter_some, Option.filter_some, hpads.isBlank_eq]
      cases Text.isBlank v.toList with
      | true => rfl
      | false =>
        -- What is on is switched off, and what is off stays off.
        cases hon : isOn v <;> simp [hsame, hon, isOn_of_pads hpads hsame]

/-- **White space around the values** of the variables that hold numbers, a list or a switch changes
nothing that the environment says, except that a switch with white space around its word is off. -/
theorem ofEnvironment_of_pads (h : e.Pads e') :
    ofEnvironment e' =
      if (ofEnvironment e).verbose = some true ∧
          e'.get? "SST_TEST_VERBOSE" ≠ e.get? "SST_TEST_VERBOSE" then
        { ofEnvironment e with verbose := some false }
      else ofEnvironment e := by
  have hnumber : ∀ max, ∀ name ∈ typedNames, number? e' max name = number? e max name :=
    fun max name hname => number?_of_pads h hname max
  have hother : ∀ name, name ∉ typedNames → value? e' name = value? e name :=
    fun name hname => value?_of_others h hname
  have hall : ofEnvironment e' =
      { ofEnvironment e with verbose := (value? e' "VERBOSE").map isOn } := by
    rw [ofEnvironment, ofEnvironment, scenarios_of_pads h, hother "SST_PATH" (by decide),
      hother "MPIRUN" (by decide), hother "OUTPUT_DIR" (by decide), hother "CONFIG" (by decide),
      hnumber _ "RANKS" (by decide), hnumber _ "THREADS" (by decide),
      hnumber _ "CONCURRENCY" (by decide), hnumber _ "TIMEOUT" (by decide),
      hnumber _ "TIMEOUT_OVERRIDE" (by decide)]
  have hverbose : (ofEnvironment e).verbose = (value? e "VERBOSE").map isOn := rfl
  rw [hall, verbose_of_pads h, ← hverbose]
  split
  · rfl
  · rfl

/-- An environment, and one with a tab, an ideographic space and a line feed in it. -/
theorem paddedVariables_read :
    let e : Environment := ⟨[("SST_TEST_RANKS", "2"), ("SST_TEST_MPIRUN", "mpiexec"),
      ("SST_TEST_SCENARIOS", "slow, wide"), ("SST_TEST_VERBOSE", "on")], none⟩
    let e' : Environment := ⟨[("SST_TEST_RANKS", "\t2 "), ("SST_TEST_MPIRUN", "mpiexec"),
      ("SST_TEST_SCENARIOS", "\u3000slow, wide\n"), ("SST_TEST_VERBOSE", "on")], none⟩
    e.Pads e' ∧ ofEnvironment e' = ofEnvironment e ∧ (ofEnvironment e).ranks = some 2 ∧
      (ofEnvironment e).scenarios = some ["slow", "wide"] ∧
      (ofEnvironment e).verbose = some true := by
  intro e e'
  have hpads : e.Pads e' := by
    refine .of_bindings (.cons ⟨rfl, ?_, .inr ?_⟩ (.cons ⟨rfl, ?_, .inl rfl⟩
      (.cons ⟨rfl, ?_, .inr ?_⟩ (.cons ⟨rfl, ?_, .inl rfl⟩ .nil))))
    · exact ⟨['\t'], [' '], by decide, by decide, rfl⟩
    · exact ⟨"RANKS", by decide, rfl⟩
    · exact ⟨[], [], by simp, by simp, rfl⟩
    · exact ⟨['\u3000'], ['\n'], by decide, by decide, rfl⟩
    · exact ⟨"SCENARIOS", by decide, rfl⟩
    · exact ⟨[], [], by simp, by simp, rfl⟩
  have hsame : e'.get? "SST_TEST_VERBOSE" = e.get? "SST_TEST_VERBOSE" := by decide +kernel
  refine ⟨hpads, ?_, by decide +kernel, by decide +kernel, by decide +kernel⟩
  rw [ofEnvironment_of_pads hpads, if_neg fun h => h.2 hsame]

/-- A space before the word switches off what the word switches on. -/
theorem paddedSwitch_off :
    let e : Environment := ⟨[("SST_TEST_VERBOSE", "true")], none⟩
    let e' : Environment := ⟨[("SST_TEST_VERBOSE", " true")], none⟩
    e.Pads e' ∧ (ofEnvironment e).verbose = some true ∧ (ofEnvironment e').verbose = some false ∧
      ofEnvironment e' ≠ ofEnvironment e := by
  intro e e'
  have hpads : e.Pads e' := by
    refine .of_bindings (.cons ⟨rfl, ?_, .inr ?_⟩ .nil)
    · exact ⟨[' '], [], by decide, by simp, rfl⟩
    · exact ⟨"VERBOSE", by decide, rfl⟩
  have hon : (ofEnvironment e).verbose = some true := by decide +kernel
  have hoff : (ofEnvironment e').verbose = some false := by decide +kernel
  refine ⟨hpads, hon, hoff, fun heq => ?_⟩
  rw [heq, hon] at hoff
  cases hoff

end EnvSettings

end SuiteRunner
