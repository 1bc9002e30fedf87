import SuiteRunner.Text.Utf8

/-!
# Reading back the bytes of a text

A character is written with one to four bytes, of which the first one says how many follow.  What is
read from the bytes of a text, strictly or lossily, is the text again.

* `Utf8.next_encodeChar` — the bytes of a character are read as this character, whatever follows;
* **`Utf8.decodeWith_encode`** — the bytes of a text are read as its characters;
* `Utf8.decode?_encode`, `Utf8.decodeLossy_encode` and `Utf8.encode_injective`.
-/

namespace SuiteRunner.Utf8

/-! ### First bytes -/

theorem lead?_one {b : Nat} (h : b < 0x80) : lead? b = some (0, b, 0x80, 0xBF) := by
  rw [lead?, if_pos h]

theorem lead?_two {b : Nat} (low : 0xC2 ≤ b) (high : b < 0xE0) :
    lead? b = some (1, b - 0xC0, 0x80, 0xBF) := by
  rw [lead?, if_neg (by omega), if_neg (by omega), if_pos high]

/-- The byte after the first one of three has a shorter range in two cases: before it there may be no
zeros only, and no surrogate may come out. -/
theorem lead?_three {b : Nat} (low : 0xE0 ≤ b) (high : b < 0xF0) :
    lead? b = some (2, b - 0xE0, if b = 0xE0 then 0xA0 else 0x80,
      if b = 0xED then 0x9F else 0xBF) := by
  rw [lead?, if_neg (by omega), if_neg (by omega), if_neg (by omega)]
  by_cases h0 : b = 0xE0
  · subst h0
    rfl
  · rw [if_neg h0]
    by_cases hd : b = 0xED
    · subst hd
      rfl
    · rw [if_neg hd, if_pos high, if_neg h0, if_neg hd]

/-- The byte after the first one of four has a shorter range at both ends. -/
theorem lead?_four {b : Nat} (low : 0xF0 ≤ b) (high : b ≤ 0xF4) :
    lead? b = some (3, b - 0xF0, if b = 0xF0 then 0x90 else 0x80,
      if b = 0xF4 then 0x8F else 0xBF) := by
  rw [lead?, if_neg (by omega), if_neg (by omega), if_neg (by omega), if_neg (by omega),
    if_neg (by omega), if_neg (by omega)]
  by_cases h0 : b = 0xF0
  · subst h0
    rfl
  · rw [if_neg h0]
    by_cases h4 : b = 0xF4
    · subst h4
      rfl
    · rw [if_pos (by omega), if_neg h0, if_neg h4]

/-! ### Characters -/

/-- A byte that carries six more bits of a character. -/
theorem follow_tail (count value k : Nat) {low high : Nat} (rest : Bytes)
    (hlow : low ≤ 0x80 + k % 64) (hhigh : 0x80 + k % 64 ≤ high) :
    follow (count + 1) value low high ((0x80 + k % 64).toUInt8 :: rest) =
      follow count (value * 64 + k % 64) 0x80 0xBF rest := by
  have hbyte : (0x80 + k % 64).toUInt8.toNat = 0x80 + k % 64 := by
    rw [Nat.toUInt8, UInt8.toNat_ofNat']
    omega
  rw [follow, hbyte, if_pos (by simp [hlow, hhigh]), Nat.add_sub_cancel_left]

theorem toNat_toUInt8 {n : Nat} (h : n < 256) : n.toUInt8.toNat = n := by
  rw [Nat.toUInt8, UInt8.toNat_ofNat']
  omega

/-- **The bytes of a character are read as this character**, whatever comes after them. -/
theorem next_encodeChar (c : Char) :
    ∃ b more, encodeChar c = b :: more ∧ ∀ rest, next b (more ++ rest) = (some c, rest) := by
  have hvalid : c.toNat < 0xD800 ∨ 0xDFFF < c.toNat ∧ c.toNat < 0x110000 := c.valid
  have hchar : Char.ofNat c.toNat = c := Char.ofNat_toNat c
  rw [encodeChar]
  generalize c.toNat = n at hvalid hchar
  by_cases h1 : n < 0x80
  · refine ⟨_, _, if_pos h1, fun rest => ?_⟩
    rw [next, toNat_toUInt8 (by omega), lead?_one h1]
    simp [follow, hchar]
  · by_cases h2 : n < 0x800
    · refine ⟨_, _, by rw [if_neg h1, if_pos h2], fun rest => ?_⟩
      have hbits : (0xC0 + n / 64 - 0xC0) * 64 + n % 64 = n := by omega
      rw [next, toNat_toUInt8 (by omega), lead?_two (by omega) (by omega)]
      dsimp only [List.cons_append, List.nil_append]
      rw [follow_tail 0 _ n rest (by omega) (by omega), hbits]
      simp [follow, hchar]
    · by_cases h3 : n < 0x10000
      · refine ⟨_, _, by rw [if_neg h1, if_neg h2, if_pos h3], fun rest => ?_⟩
        have hbits : ((0xE0 + n / 4096 - 0xE0) * 64 + n / 64 % 64) * 64 + n % 64 = n := by omega
        rw [next, toNat_toUInt8 (by omega), lead?_three (by omega) (by omega)]
        dsimp only [List.cons_append, List.nil_append]
        rw [follow_tail 1 _ (n / 64) _ (by split <;> omega) (by split <;> omega),
          follow_tail 0 _ n rest (by omega) (by omega), hbits]
        simp [follow, hchar]
      · refine ⟨_, _, by rw [if_neg h1, if_neg h2, if_neg h3], fun rest => ?_⟩
        have hbits : (((0xF0 + n / 262144 - 0xF0) * 64 + n / 4096 % 64) * 64 + n / 64 % 64) * 64 +
            n % 64 = n := by omega
        rw [next, toNat_toUInt8 (by omega), lead?_four (by omega) (by omega)]
        dsimp only [List.cons_append, List.nil_append]
        rw [follow_tail 2 _ (n / 4096) _ (by split <;> omega) (by split <;> omega),
          follow_tail 1 _ (n / 64) _ (by omega) (by omega),
          follow_tail 0 _ n rest (by omega) (by omega), hbits]
        simp [follow, hchar]

/-! ### Texts -/

/-- **The bytes of a text are read as its characters**, and then come those of what follows. -/
theorem decodeWith_encode_append (s : List Char) (rest : Bytes) :
    decodeWith (encode s ++ rest) = s.map some ++ decodeWith rest := by
  induction s with
  | nil => rfl
  | cons c s ih =>
    obtain ⟨b, more, hbytes, hnext⟩ := next_encodeChar c
    rw [encode, List.flatMap_cons, hbytes, List.append_assoc, List.cons_append, decodeWith, hnext,
      ← encode, ih]
    rfl

theorem decodeWith_encode (s : List Char) : decodeWith (encode s) = s.map some := by
  have h := decodeWith_encode_append s []
  rw [List.append_nil, decodeWith, List.append_nil] at h
  exact h

theorem decode?_encode (s : List Char) : decode? (encode s) = some s := by
  rw [decode?, decodeWith_encode]
  induction s with
  | nil => rfl
  | cons c s ih => simp [List.mapM_cons, ih]

theorem decodeLossy_encode (s : List Char) : decodeLossy (encode s) = s := by
  rw [decodeLossy, decodeWith_encode, List.map_map]
  exact List.map_id s

theorem encode_injective {s t : List Char} (h : encode s = encode t) : s = t := by
  have hdecode := decode?_encode s
  rw [h, decode?_encode t] at hdecode
  exact (Option.some.inj hdecode).symm

end SuiteRunner.Utf8
