/-!
# UTF-8

Texts as bytes.  Reading is strict (`decode?`) or lossy (`decodeLossy`): in the lossy reading each longest
ill-formed start of a character becomes one replacement character.

Main definitions:

* `Bytes`, lists of bytes;
* `encode`, `decode?` and `decodeLossy`.
-/

namespace SuiteRunner

/-- A sequence of bytes. -/
abbrev Bytes := List UInt8

namespace Utf8

/-- The bytes of one character. -/
def encodeChar (c : Char) : Bytes :=
  let n := c.toNat
  if n < 0x80 then [n.toUInt8]
  else if n < 0x800 then [(0xC0 + n / 64).toUInt8, (0x80 + n % 64).toUInt8]
  else if n < 0x10000 then
    [(0xE0 + n / 4096).toUInt8, (0x80 + n / 64 % 64).toUInt8, (0x80 + n % 64).toUInt8]
  else
    [(0xF0 + n / 262144).toUInt8, (0x80 + n / 4096 % 64).toUInt8, (0x80 + n / 64 % 64).toUInt8,
      (0x80 + n % 64).toUInt8]

/-- The bytes of a text. -/
def encode (s : List Char) : Bytes := s.flatMap encodeChar

/-- The first byte of a character: how many bytes follow, the bits it carries, and the range of the byte after
it.  Bytes that start no character have no entry. -/
def lead? (b : Nat) : Option (Nat × Nat × Nat × Nat) :=
  if b < 0x80 then some (0, b, 0x80, 0xBF)
  else if b < 0xC2 then none
  else if b < 0xE0 then some (1, b - 0xC0, 0x80, 0xBF)
  else if b = 0xE0 then some (2, 0, 0xA0, 0xBF)
  else if b = 0xED then some (2, 0xD, 0x80, 0x9F)
  else if b < 0xF0 then some (2, b - 0xE0, 0x80, 0xBF)
  else if b = 0xF0 then some (3, 0, 0x90, 0xBF)
  else if b < 0xF4 then some (3, b - 0xF0, 0x80, 0xBF)
  else if b = 0xF4 then some (3, 4, 0x80, 0x8F)
  else none

/-- Reads `n` more bytes of a character, the first of them between `low` and `high`; `none` in place of the
character when a byte does not fit, and the bytes from there on. -/
def follow (n value low high : Nat) (bytes : Bytes) : Option Nat × Bytes :=
  match n, bytes with
  | 0, bytes => (some value, bytes)
  | _ + 1, [] => (none, [])
  | n + 1, b :: rest =>
    if low ≤ b.toNat && b.toNat ≤ high then follow n (value * 64 + (b.toNat - 0x80)) 0x80 0xBF rest
    else (none, b :: rest)

/-- The bytes that `follow` leaves are no more than it was given. -/
theorem length_follow_le (n value low high : Nat) (bytes : Bytes) :
    (follow n value low high bytes).2.length ≤ bytes.length := by
  induction n generalizing value low high bytes with
  | zero => simp [follow]
  | succ n ih =>
    cases bytes with
    | nil => simp [follow]
    | cons b rest =>
      simp only [follow]
      split
      · have := ih (value * 64 + (b.toNat - 0x80)) 0x80 0xBF rest
        simp; omega
      · simp

/-- One character from the front of the bytes `b :: rest`, or `none` for an ill-formed start, and what follows. -/
def next (b : UInt8) (rest : Bytes) : Option Char × Bytes :=
  match lead? b.toNat with
  | none => (none, rest)
  | some (n, value, low, high) =>
    let (code, after) := follow n value low high rest
    (code.map Char.ofNat, after)

theorem length_next_le (b : UInt8) (rest : Bytes) : (next b rest).2.length ≤ rest.length := by
  unfold next
  split
  · simp
  · rename_i n value low high _
    exact length_follow_le n value low high rest

/-- The text of the bytes, each ill-formed start read as `none`. -/
def decodeWith (bytes : Bytes) : List (Option Char) :=
  match bytes with
  | [] => []
  | b :: rest => (next b rest).1 :: decodeWith (next b rest).2
termination_by bytes.length
decreasing_by
  have := length_next_le b rest
  simp; omega

/-- The text of well-formed bytes. -/
def decode? (bytes : Bytes) : Option (List Char) := (decodeWith bytes).mapM id

/-- The text of any bytes, with replacement characters for the ill-formed parts. -/
def decodeLossy (bytes : Bytes) : List Char := (decodeWith bytes).map fun c => c.getD '\uFFFD'

end Utf8

end SuiteRunner
