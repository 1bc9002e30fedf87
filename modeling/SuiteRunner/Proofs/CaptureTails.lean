import Mathlib.Data.List.Infix
import SuiteRunner.Proofs.Utf8Reading
import SuiteRunner.Report.Junit

/-!
# The end of a captured output

A report shows the last bytes of a captured output.  The output is cut by bytes and read afterwards:
a cut between two characters leaves the end of the text, and a cut inside a character leaves bytes
of it that are no character by themselves.

* `Utf8.IsTail`, the bytes that a character goes on with;
* `Utf8.decodeWith_tails` — none of them starts a character;
* `Utf8.Cut` and **`Utf8.exists_cut`** — the bytes of a text from some byte on;
* **`Junit.capture_tail`** — the text that is shown, and when it is an end of what was printed;
* `Junit.splitCharacter_shown`, an output with a character that was not printed.
-/

namespace SuiteRunner

/-! ### Bytes inside a character -/

namespace Utf8

variable {b : UInt8} {c : Char} {s front back : List Char} {n : Nat} {tails rest : Bytes}

/-- The byte goes on with a character. -/
def IsTail (b : UInt8) : Prop := 0x80 ≤ b.toNat ∧ b.toNat < 0xC0

theorem isTail_toUInt8 (n : Nat) : IsTail (0x80 + n % 64).toUInt8 := by
  rw [IsTail, toNat_toUInt8 (by omega)]
  omega

/-- All bytes of a character but the first go on with it. -/
theorem isTail_of_mem_tail (h : b ∈ (encodeChar c).tail) : IsTail b := by
  rw [encodeChar] at h
  split at h
  · simp at h
  · split at h
    · rw [List.tail_cons, List.mem_singleton] at h
      exact h ▸ isTail_toUInt8 _
    · split at h
      · simp only [List.tail_cons, List.mem_cons, List.not_mem_nil, or_false] at h
        rcases h with rfl | rfl <;> exact isTail_toUInt8 _
      · simp only [List.tail_cons, List.mem_cons, List.not_mem_nil, or_false] at h
        rcases h with rfl | rfl | rfl <;> exact isTail_toUInt8 _

/-- A character has one to four bytes. -/
theorem length_encodeChar (c : Char) :
    0 < (encodeChar c).length ∧ (encodeChar c).length ≤ 4 := by
  rw [encodeChar]
  split
  · simp
  · split
    · simp
    · split <;> simp

theorem next_tail (h : IsTail b) (rest : Bytes) : next b rest = (none, rest) := by
  have hlead : lead? b.toNat = none := by
    rw [lead?, if_neg (Nat.not_lt.2 h.1), if_pos (by have := h.2; omega)]
  rw [next, hlead]

/-- **No byte that goes on with a character starts one.** -/
theorem decodeWith_tails (h : ∀ b ∈ tails, IsTail b) (rest : Bytes) :
    decodeWith (tails ++ rest) = List.replicate tails.length none ++ decodeWith rest := by
  induction tails with
  | nil => rfl
  | cons b tails ih =>
    obtain ⟨hb, htails⟩ := List.forall_mem_cons.1 h
    rw [List.cons_append, decodeWith, next_tail hb, ih htails]
    rfl

theorem decodeLossy_tails_append (h : ∀ b ∈ tails, IsTail b) (s : List Char) :
    decodeLossy (tails ++ encode s) = List.replicate tails.length '\uFFFD' ++ s := by
  rw [decodeLossy, decodeWith_tails h, decodeWith_encode, List.map_append, List.map_replicate,
    List.map_map]
  exact congrArg _ (List.map_id s)

/-! ### Texts that are cut by bytes -/

theorem encode_append (s t : List Char) : encode (s ++ t) = encode s ++ encode t :=
  List.flatMap_append

theorem encode_singleton (c : Char) : encode [c] = encodeChar c := List.append_nil _

/-- The bytes of the text from the byte `n` on are those of `back`, after bytes that are left of the
last character of `front`. -/
structure Cut (s : List Char) (n : Nat) (front back : List Char) (tails : Bytes) : Prop where
  split : s = front ++ back
  bytes : (encode s).drop n = tails ++ encode back
  /-- The cut falls inside the last character before it, if bytes of it are left. -/
  inside : tails ≠ [] → ∃ before c head, front = before ++ [c] ∧ encodeChar c = head ++ tails ∧
    head ≠ []

/-- **A text can be cut at every byte.** -/
theorem exists_cut (s : List Char) (n : Nat) : ∃ front back tails, Cut s n front back tails := by
  induction s generalizing n with
  | nil => exact ⟨[], [], [], rfl, by simp [encode], fun h => absurd rfl h⟩
  | cons c s ih =>
    have hbytes : encode (c :: s) = encodeChar c ++ encode s := List.flatMap_cons
    by_cases hzero : n = 0
    · subst hzero
      exact ⟨[], c :: s, [], rfl, rfl, fun h => absurd rfl h⟩
    · by_cases hinside : n < (encodeChar c).length
      · refine ⟨[c], s, (encodeChar c).drop n, rfl, ?_, fun _ => ?_⟩
        · rw [hbytes, List.drop_append_of_le_length (Nat.le_of_lt hinside)]
        · refine ⟨[], c, (encodeChar c).take n, rfl, (List.take_append_drop n _).symm, ?_⟩
          rw [ne_eq, List.take_eq_nil_iff, not_or]
          exact ⟨hzero, List.ne_nil_of_length_pos (length_encodeChar c).1⟩
      · obtain ⟨front, back, tails, hcut⟩ := ih (n - (encodeChar c).length)
        refine ⟨c :: front, back, tails, ?_, ?_, fun htails => ?_⟩
        · rw [List.cons_append, ← hcut.split]
        · rw [hbytes, List.drop_append, List.drop_of_length_le (Nat.not_lt.1 hinside),
            List.nil_append, hcut.bytes]
        · obtain ⟨before, d, head, hfront, hchar, hhead⟩ := hcut.inside htails
          exact ⟨c :: before, d, head, by rw [hfront, List.cons_append], hchar, hhead⟩

namespace Cut

theorem isTail (h : Cut s n front back tails) : ∀ b ∈ tails, IsTail b := by
  intro b hb
  obtain ⟨before, c, head, -, hchar, hhead⟩ := h.inside (List.ne_nil_of_mem hb)
  apply isTail_of_mem_tail (c := c)
  rw [hchar, List.tail_append_of_ne_nil hhead]
  exact List.mem_append_right _ hb

theorem length_tails_lt (h : Cut s n front back tails) : tails.length < 4 := by
  by_cases htails : tails = []
  · simp [htails]
  · obtain ⟨before, c, head, -, hchar, hhead⟩ := h.inside htails
    have hlength := congrArg List.length hchar
    have hlimit := (length_encodeChar c).2
    have hpos := List.length_pos_of_ne_nil hhead
    rw [List.length_append] at hlength
    omega

/-- What is left has as many bytes as come after the cut. -/
theorem length_add_length (h : Cut s n front back tails) :
    (encode back).length + tails.length = (encode s).length - n := by
  have hlength := congrArg List.length h.bytes
  rw [List.length_drop, List.length_append] at hlength
  omega

/-- **Nothing is left of a character exactly if one ends at the cut.** -/
theorem tails_eq_nil_iff (h : Cut s n front back tails) (inside : n ≤ (encode s).length) :
    tails = [] ↔ ∃ a b, s = a ++ b ∧ (encode a).length = n := by
  have hlength := h.length_add_length
  have htotal := congrArg (fun t => (encode t).length) h.split
  simp only [encode_append, List.length_append] at htotal
  constructor
  · rintro rfl
    rw [List.length_nil] at hlength
    exact ⟨front, back, h.split, by omega⟩
  · rintro ⟨a, b, hsplit, ha⟩
    by_contra htails
    obtain ⟨before, c, head, rfl, hchar, hhead⟩ := h.inside htails
    have hpos := List.length_pos_of_ne_nil htails
    have hheadPos := List.length_pos_of_ne_nil hhead
    have hparts := congrArg List.length hchar
    rw [encode_append, encode_singleton, List.length_append] at htotal
    rw [List.length_append] at hparts
    -- The character is on one side of the other split, which is not where the cut is.
    have heq := hsplit.symm.trans h.split
    rw [List.append_assoc, List.singleton_append] at heq
    rcases List.append_eq_append_iff.1 heq with ⟨mid, hbefore, -⟩ | ⟨mid, hbefore, hmid⟩
    · have hle := congrArg (fun t => (encode t).length) hbefore
      simp only [encode_append, List.length_append] at hle
      omega
    · cases mid with
      | nil =>
        rw [List.append_nil] at hbefore
        rw [hbefore] at ha
        omega
      | cons d mid =>
        obtain ⟨rfl, -⟩ := List.cons.inj hmid
        have hge := congrArg (fun t => (encode t).length) hbefore
        rw [← List.singleton_append, encode_append] at hge
        simp only [encode_append, encode_singleton, List.length_append] at hge
        omega

end Cut

end Utf8

/-! ### What a report shows -/

namespace Junit

variable {files : FileTree} {path : String} {s front back : List Char} {tails : Bytes}

/-- The text that is shown of an output: one replacement character for each byte that is left of
the character in which it was cut, and the whole characters after it. -/
theorem captured?_of_cut (h : files.readBytes path = .ok (Utf8.encode s)) (nonempty : s ≠ [])
    (cut : Utf8.Cut s ((Utf8.encode s).length - captureLimit) front back tails) :
    captured? files (some path) =
      some (String.ofList (List.replicate tails.length '\uFFFD' ++ back)) := by
  have hbytes : (Utf8.encode s).isEmpty = false := by
    cases s with
    | nil => exact absurd rfl nonempty
    | cons c s =>
      rw [List.isEmpty_eq_false_iff, Utf8.encode, List.flatMap_cons]
      have hpos := (Utf8.length_encodeChar c).1
      exact List.append_ne_nil_of_left_ne_nil (List.ne_nil_of_length_pos hpos) _
  rw [captured?, Option.map_some, h]
  dsimp only
  rw [hbytes, cut.bytes, Utf8.decodeLossy_tails_append cut.isTail]
  rfl

/-- **What a report shows of an output that is a text.**  Nothing is shown of an empty one.  Of any
other one the last bytes are shown, up to the limit: whole characters from the end of the text, and
before them one replacement character for each byte that is left of the character in which the
output was cut.  So the end of what was printed is shown exactly if a character ends at the cut;
otherwise up to three characters come before it that were put in. -/
theorem capture_tail (h : files.readBytes path = .ok (Utf8.encode s)) (name : String) :
    (s = [] → capture files name (some path) = []) ∧
    (s ≠ [] → ∃ front back lost, s = front ++ back ∧
      capture files name (some path) =
        [.leaf name [] (some (String.ofList (List.replicate lost '\uFFFD' ++ back)))] ∧
      (Utf8.encode back).length + lost = min captureLimit (Utf8.encode s).length ∧
      lost < 4 ∧
      (lost = 0 ↔ ∃ a b, s = a ++ b ∧
        (Utf8.encode a).length = (Utf8.encode s).length - captureLimit)) := by
  constructor
  · rintro rfl
    rw [capture, captured?, Option.map_some, h]
    rfl
  · intro nonempty
    obtain ⟨front, back, tails, hcut⟩ :=
      Utf8.exists_cut s ((Utf8.encode s).length - captureLimit)
    refine ⟨front, back, tails.length, hcut.split, ?_, ?_, hcut.length_tails_lt, ?_⟩
    · rw [capture, captured?_of_cut h nonempty hcut]
    · have hlength := hcut.length_add_length
      omega
    · rw [List.length_eq_zero_iff]
      exact hcut.tails_eq_nil_iff (Nat.sub_le _ _)

/-! ### Two outputs above the limit -/

/-- A working directory with one captured output. -/
def oneOutput (s : List Char) : FileTree := ⟨[(["c.out"], .file (Utf8.encode s))], []⟩

theorem readBytes_oneOutput (s : List Char) :
    (oneOutput s).readBytes "c.out" = .ok (Utf8.encode s) := rfl

theorem length_encode_replicate (n : Nat) : (Utf8.encode (List.replicate n 'x')).length = n := by
  induction n with
  | zero => rfl
  | succ n ih =>
    have hchar : (Utf8.encodeChar 'x').length = 1 := by decide
    rw [List.replicate_succ, ← List.singleton_append, Utf8.encode_append, Utf8.encode_singleton,
      List.length_append, ih, hchar, Nat.add_comm]

/-- A character of two bytes is shown if the limit is reached before it. -/
theorem wholeCharacter_shown :
    (oneOutput ('x' :: 'é' :: List.replicate 65534 'x')).readBytes "c.out" =
      .ok (Utf8.encode ('x' :: 'é' :: List.replicate 65534 'x')) ∧
    ∃ back, back <:+ 'x' :: 'é' :: List.replicate 65534 'x' ∧
      (Utf8.encode back).length = captureLimit ∧
      capture (oneOutput ('x' :: 'é' :: List.replicate 65534 'x')) "system-out" (some "c.out") =
        [.leaf "system-out" [] (some (String.ofList back))] := by
  have hread := readBytes_oneOutput ('x' :: 'é' :: List.replicate 65534 'x')
  have hlength : (Utf8.encode ('x' :: 'é' :: List.replicate 65534 'x')).length = 65537 := by
    rw [show 'x' :: 'é' :: List.replicate 65534 'x' = ['x', 'é'] ++ List.replicate 65534 'x' from rfl,
      Utf8.encode_append, List.length_append, length_encode_replicate]
    rfl
  obtain ⟨front, back, lost, hsplit, hshown, hbytes, -, hnone⟩ :=
    (capture_tail hread "system-out").2 (List.cons_ne_nil _ _)
  obtain rfl : lost = 0 := hnone.2 ⟨['x'], _, rfl, by rw [hlength]; rfl⟩
  rw [hlength] at hbytes
  exact ⟨hread, back, ⟨front, hsplit.symm⟩, hbytes, hshown⟩

/-- **An output with a character that was not printed.**  The limit falls inside the character of two
bytes, and what is shown starts with a replacement character, is no end of the output, and has more
bytes than the limit. -/
theorem splitCharacter_shown :
    (oneOutput ('é' :: List.replicate 65535 'x')).readBytes "c.out" =
      .ok (Utf8.encode ('é' :: List.replicate 65535 'x')) ∧
    capture (oneOutput ('é' :: List.replicate 65535 'x')) "system-out" (some "c.out") =
      [.leaf "system-out" [] (some (String.ofList ('\uFFFD' :: List.replicate 65535 'x')))] ∧
    '\uFFFD' ∉ 'é' :: List.replicate 65535 'x' ∧
    ¬ '\uFFFD' :: List.replicate 65535 'x' <:+ 'é' :: List.replicate 65535 'x' ∧
    captureLimit < (Utf8.encode ('\uFFFD' :: List.replicate 65535 'x')).length := by
  have hread := readBytes_oneOutput ('é' :: List.replicate 65535 'x')
  have hsize : ∀ c, (Utf8.encode (c :: List.replicate 65535 'x')).length =
      (Utf8.encodeChar c).length + 65535 := by
    intro c
    rw [← List.singleton_append, Utf8.encode_append, Utf8.encode_singleton, List.length_append,
      length_encode_replicate]
  have habsent : '\uFFFD' ∉ 'é' :: List.replicate 65535 'x' := by
    rw [List.mem_cons, not_or]
    exact ⟨by decide, fun h => absurd (List.eq_of_mem_replicate h) (by decide)⟩
  refine ⟨hread, ?_, habsent, fun h => habsent (h.subset List.mem_cons_self), ?_⟩
  · have hcut : Utf8.Cut ('é' :: List.replicate 65535 'x')
        ((Utf8.encode ('é' :: List.replicate 65535 'x')).length - captureLimit)
        ['é'] (List.replicate 65535 'x') [0xA9] := by
      refine ⟨rfl, ?_, fun _ => ⟨[], 'é', [0xC3], rfl, by decide, by decide⟩⟩
      rw [hsize]
      rfl
    rw [capture, captured?_of_cut hread (List.cons_ne_nil _ _) hcut]
    rfl
  · rw [hsize]
    decide

end Junit

end SuiteRunner
