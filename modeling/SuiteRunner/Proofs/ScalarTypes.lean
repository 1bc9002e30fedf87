import SuiteRunner.Document.Node
import SuiteRunner.Proofs.YamlTokens

/-!
# The types of scalars without quotation marks

A plain scalar that is read by itself becomes null, a truth value, a number or a text.  Numbers come
back as they were, since their digits are a number by themselves.  Texts come back if they stand
between quotation marks or cannot be taken for anything else; `needsQuotes` leaves out two kinds of
numbers.

* **`Node.ofPlain?_toString`** — the digits of a number are the number by themselves;
* `Node.isNumeric_of_wholeNumber?` and `Node.isNumeric_of_isUnsigned`, the numbers that are
  recognized when they are printed;
* `Yaml.misreads`, the texts that are printed bare and are numbers by themselves;
* **`Yaml.ofPlain?_bare`** — all other bare texts are texts by themselves.
-/

namespace SuiteRunner

/-! ### Whole numbers -/

namespace Node

open Numeral

/-- Digits name no base. -/
theorem basePart?_digits {ds : List Char} (h : ∀ c ∈ ds, Unicode.isAsciiDigit c = true) :
    basePart? ds = none := by
  unfold basePart?
  split
  · exact absurd (h 'x' (by simp)) (by decide)
  · exact absurd (h 'o' (by simp)) (by decide)
  · exact absurd (h 'b' (by simp)) (by decide)
  · rfl

/-- The digits of a number start with a digit, which is zero for zero alone. -/
theorem toDigits_cons (m : Nat) : ∃ d ds, Nat.toDigits 10 m = d :: ds ∧
    (∀ c ∈ d :: ds, Unicode.isAsciiDigit c = true) ∧ (d = '0' → ds = []) := by
  obtain ⟨d, ds, hds⟩ := List.exists_cons_of_ne_nil (Nat.toDigits_ne_nil (n := m) (b := 10))
  refine ⟨d, ds, hds, hds ▸ Json.isAsciiDigit_toDigits, ?_⟩
  rintro rfl
  obtain rfl := Json.eq_zero_of_head?_toDigits (by rw [hds]; rfl)
  exact (List.cons.inj hds).2.symm

section Digits

variable {d : Char} {ds : List Char}

theorem ne_sign (h : ∀ c ∈ d :: ds, Unicode.isAsciiDigit c = true) : d ≠ '+' ∧ d ≠ '-' := by
  have hd := h d List.mem_cons_self
  constructor <;> (rintro rfl; cases hd)

theorem basedInt?_digits (h : ∀ c ∈ d :: ds, Unicode.isAsciiDigit c = true) :
    basedInt? (d :: ds) = none ∧ basedInt? ('-' :: d :: ds) = none := by
  have hbase := basePart?_digits h
  have hdash : basePart? ('-' :: d :: ds) = none := rfl
  obtain ⟨hplus, hminus⟩ := ne_sign h
  constructor
  · simp [basedInt?, hbase, hplus, hminus]
  · simp [basedInt?, hbase, hdash]

theorem isZeroLed_digits (h : ∀ c ∈ d :: ds, Unicode.isAsciiDigit c = true)
    (hzero : d = '0' → ds = []) :
    isZeroLed (d :: ds) = false ∧ isZeroLed ('-' :: d :: ds) = false := by
  obtain ⟨hplus, hminus⟩ := ne_sign h
  have hled : isZeroLed ('-' :: d :: ds) = false := by
    unfold isZeroLed
    dsimp only
    split
    · rename_i heq
      obtain ⟨rfl, rfl⟩ := List.cons.inj heq
      cases hzero rfl
    · rfl
  refine ⟨?_, hled⟩
  unfold isZeroLed
  split
  · exact absurd (List.cons.inj ‹_›).1 hminus
  · exact absurd (List.cons.inj ‹_›).1 hplus
  · exact hled

/-- **The digits of a number are the number by themselves**, with a dash or without. -/
theorem wholeNumber?_toString (n : Int) : wholeNumber? (toString n).toList = some n := by
  rcases Yaml.toList_toString_int n with ⟨hn, htext⟩ | ⟨hn, htext⟩
  · obtain ⟨d, ds, hds, hdigits, hzero⟩ := toDigits_cons n.toNat
    have hread := Json.digits?_toDigits n.toNat
    rw [hds] at hread
    obtain ⟨hplus, hminus⟩ := ne_sign hdigits
    rw [htext, hds]
    simp [wholeNumber?, basedInt?_digits hdigits, isZeroLed_digits hdigits hzero, hplus, hminus,
      hread]
    omega
  · obtain ⟨d, ds, hds, hdigits, hzero⟩ := toDigits_cons (-n).toNat
    have hread := Json.digits?_toDigits (-n).toNat
    rw [hds] at hread
    rw [htext, hds]
    simp [wholeNumber?, basedInt?_digits hdigits, isZeroLed_digits hdigits hzero, hread]
    omega

end Digits

/-- The digits of a number are none of the words that stand for other values. -/
theorem toString_ne_word (n : Int) : ∀ w ∈ ["~", "null", "true", "false"], toString n ≠ w := by
  intro w hw h
  have hread := wholeNumber?_toString n
  rw [h] at hread
  simp only [List.mem_cons, List.not_mem_nil, or_false] at hw
  rcases hw with rfl | rfl | rfl | rfl <;> cases hread

theorem ofPlain?_toString {n : Int} (h : fits64 n = true) :
    ofPlain? (toString n) = some (.int n) := by
  have hword := toString_ne_word n
  simp only [List.forall_mem_cons] at hword
  obtain ⟨htilde, hnull, htrue, hfalse, -⟩ := hword
  rw [ofPlain?, decide_eq_false htilde, decide_eq_false hnull, Bool.or_false,
    if_neg Bool.false_ne_true, if_neg htrue, if_neg hfalse,
    wholeNumber?_toString]
  exact if_pos h

/-! ### Decimal numbers -/

theorem isAsciiDigit_of_digit? {c : Char} {v : Nat} (h : digit? 10 c = some v) :
    Unicode.isAsciiDigit c = true := by
  rw [digit?, Option.filter_eq_some_iff] at h
  obtain ⟨h, hlt⟩ := h
  -- A letter stands for ten or more.
  split at h
  · rename_i hd
    simpa [Unicode.isAsciiDigit] using hd
  · split at h
    · cases h
      exact absurd (of_decide_eq_true hlt) (by omega)
    · split at h
      · cases h
        exact absurd (of_decide_eq_true hlt) (by omega)
      · cases h

/-- Only digits have a value. -/
theorem isAsciiDigit_of_digits? {s : List Char} {n : Nat} (h : digits? 10 s = some n) :
    s ≠ [] ∧ ∀ c ∈ s, Unicode.isAsciiDigit c = true := by
  have hfold : ∀ (s : List Char) (acc : Option Nat) (n : Nat), s.foldl (fun acc c =>
      acc.bind fun v => (digit? 10 c).map (v * 10 + ·)) acc = some n →
      acc ≠ none ∧ ∀ c ∈ s, Unicode.isAsciiDigit c = true := by
    intro s
    induction s with
    | nil =>
      rintro acc n rfl
      exact ⟨Option.some_ne_none n, by simp⟩
    | cons c s ih =>
      intro acc n h
      obtain ⟨hacc, hs⟩ := ih _ _ h
      obtain ⟨v, hv⟩ := Option.ne_none_iff_exists'.1 hacc
      obtain ⟨w, rfl, hw⟩ := Option.bind_eq_some_iff.1 hv
      obtain ⟨d, hd, -⟩ := Option.map_eq_some_iff.1 hw
      exact ⟨Option.some_ne_none w, List.forall_mem_cons.2 ⟨isAsciiDigit_of_digit? hd, hs⟩⟩
  rw [digits?] at h
  split at h
  · cases h
  · rename_i hs
    exact ⟨by simpa using hs, (hfold s _ _ h).2⟩

theorem dropSign_eq (s : List Char) : Yaml.dropSign s = (match s with
    | '-' :: rest | '+' :: rest => rest
    | _ => s) := by
  unfold Yaml.dropSign
  split
  · rfl
  · rfl
  · rename_i hplus hminus
    split
    · exact absurd rfl (hminus _)
    · exact absurd rfl (hplus _)
    · rfl

/-- Holds for digits with or without a point and an exponent, after the sign. -/
def isUnsigned (body : List Char) : Bool :=
  let whole := body.takeWhile Unicode.isAsciiDigit
  let rest := body.dropWhile Unicode.isAsciiDigit
  let (fraction, rest) := match rest with
    | '.' :: r => (r.takeWhile Unicode.isAsciiDigit, r.dropWhile Unicode.isAsciiDigit)
    | r => ([], r)
  (!whole.isEmpty || !fraction.isEmpty) &&
    (match rest with
    | [] => true
    | e :: r => (e = 'e' || e = 'E') && isExponent r)

theorem isDecimalNumber_eq (s : List Char) : isDecimalNumber s = isUnsigned (Yaml.dropSign s) :=
  (congrArg isUnsigned (dropSign_eq s)).symm

theorem isExponent_eq (s : List Char) : isExponent s =
    (!(Yaml.dropSign s).isEmpty && (Yaml.dropSign s).all Unicode.isAsciiDigit) :=
  (congrArg (fun body : List Char => !body.isEmpty && body.all Unicode.isAsciiDigit)
    (dropSign_eq s)).symm

/-- **What is a decimal number by itself is written between quotation marks.** -/
theorem isNumeric_of_isUnsigned {s : List Char} (h : isUnsigned (Yaml.dropSign s) = true) :
    Yaml.isNumeric s = true := by
  simp only [isUnsigned, isExponent_eq, ← Bool.and_assoc] at h
  simp only [Yaml.isNumeric, Bool.or_eq_true]
  exact .inr h

theorem isUnsigned_digits {ds : List Char} (hsome : ds ≠ [])
    (hds : ∀ c ∈ ds, Unicode.isAsciiDigit c = true) : isUnsigned ds = true := by
  have htake := List.takeWhile_eq_self_iff.2 hds
  have hdrop := List.dropWhile_eq_nil_iff.2 hds
  simp only [isUnsigned, htake, hdrop]
  simpa using hsome

/-- A whole number names a base, or is written between quotation marks. -/
theorem isNumeric_of_wholeNumber? {s : List Char} {n : Int} (hbased : basedInt? s = none)
    (h : wholeNumber? s = some n) : Yaml.isNumeric s = true := by
  have hread : ∃ m, digits? 10 (Yaml.dropSign s) = some m := by
    unfold wholeNumber? at h
    rw [hbased] at h
    dsimp only at h
    split at h
    · cases h
    · rw [dropSign_eq]
      split at h
      · exact (Option.map_eq_some_iff.1 h).imp fun m hm => hm.1
      · exact (Option.map_eq_some_iff.1 h).imp fun m hm => hm.1
      · rename_i hplus hminus
        split
        · exact absurd rfl (hminus _)
        · exact absurd rfl (hplus _)
        · exact (Option.map_eq_some_iff.1 h).imp fun m hm => hm.1
  obtain ⟨m, hm⟩ := hread
  obtain ⟨hsome, hdigits⟩ := isAsciiDigit_of_digits? hm
  exact isNumeric_of_isUnsigned (isUnsigned_digits hsome hdigits)

/-- What is written without quotation marks is no decimal number. -/
theorem isDecimalNumber_eq_false {s : List Char} (h : Yaml.isNumeric s = false) :
    isDecimalNumber s = false := by
  rw [isDecimalNumber_eq]
  refine Bool.eq_false_iff.2 fun hunsigned => ?_
  rw [isNumeric_of_isUnsigned hunsigned] at h
  cases h

/-- What is written without quotation marks is a whole number only if it names a base. -/
theorem wholeNumber?_eq_basedInt? {s : List Char} (h : Yaml.isNumeric s = false) :
    wholeNumber? s = basedInt? s := by
  cases hbased : basedInt? s with
  | some n =>
    unfold wholeNumber?
    rw [hbased]
  | none =>
    refine Option.eq_none_iff_forall_ne_some.2 fun n hn => ?_
    rw [isNumeric_of_wholeNumber? hbased hn] at h
    cases h

end Node

/-! ### Texts that are misread -/

namespace Yaml

/-- How an infinite number is written with a plus sign. -/
def plusInfinities : List String := ["+.inf", "+.Inf", "+.INF"]

/-- Holds for a text that is written without quotation marks and is a number by itself: one in
another base than ten, or an infinite one with a plus sign. -/
def misreads (s : String) : Bool :=
  !needsQuotes s && ((Node.basedInt? s.toList).isSome || plusInfinities.contains s)

/-- Special numbers start with a point or a dash, but for those with a plus sign. -/
theorem isSpecialNumber_bare {s : String} (h : s.toList.head?.any leadsMarkup = false) :
    Node.isSpecialNumber s = plusInfinities.contains s := by
  have hlead : ∀ t ∈ [".inf", ".Inf", ".INF", "-.inf", "-.Inf", "-.INF", ".nan", ".NaN", ".NAN"],
      s ≠ t := by
    have hall : ∀ t ∈ [".inf", ".Inf", ".INF", "-.inf", "-.Inf", "-.INF", ".nan", ".NaN", ".NAN"],
        t.toList.head?.any leadsMarkup = true := by decide
    rintro t ht rfl
    rw [hall s ht] at h
    cases h
  simp only [List.forall_mem_cons] at hlead
  simp [Node.isSpecialNumber, plusInfinities, hlead]

/-- **What a bare text is by itself**: a text, or neither a text nor null if it is misread. -/
theorem ofPlain?_bare {s : String} (h : needsQuotes s = false) :
    (misreads s = false ∧ Node.ofPlain? s = some (.text s)) ∨
      (misreads s = true ∧ ∀ n ∈ Node.ofPlain? s, n.text? = none ∧ n.isNull? = some false) := by
  have hquotes := h
  simp only [needsQuotes, Bool.or_eq_false_iff] at hquotes
  obtain ⟨⟨⟨⟨⟨⟨-, hlead⟩, -⟩, -⟩, hreserved⟩, -⟩, hnumeric⟩ := hquotes
  have hword : ∀ w ∈ reservedWords, s ≠ w := by
    rintro w hw rfl
    simp [hw] at hreserved
  rw [Node.ofPlain?, decide_eq_false (hword "~" (by decide)),
    decide_eq_false (hword "null" (by decide)), Bool.or_false, if_neg Bool.false_ne_true,
    if_neg (hword "true" (by decide)), if_neg (hword "false" (by decide)),
    isSpecialNumber_bare hlead, Node.isDecimalNumber_eq_false hnumeric, Bool.or_false,
    Node.wholeNumber?_eq_basedInt? hnumeric, misreads, h]
  cases hbased : Node.basedInt? s.toList with
  | some n =>
    refine .inr ⟨rfl, fun node hnode => ?_⟩
    dsimp only at hnode
    split at hnode
    · cases hnode
      exact ⟨rfl, rfl⟩
    · split at hnode
      · cases hnode
      · cases hnode
        exact ⟨rfl, rfl⟩
  | none =>
    cases hinf : plusInfinities.contains s with
    | true =>
      have hled : ∀ t ∈ plusInfinities, Node.isZeroLed t.toList = false := by decide
      rw [hled s (by simpa using hinf)]
      refine .inr ⟨rfl, ?_⟩
      rintro node ⟨⟩
      exact ⟨rfl, rfl⟩
    | false => exact .inl ⟨rfl, by simp⟩

end Yaml

end SuiteRunner
