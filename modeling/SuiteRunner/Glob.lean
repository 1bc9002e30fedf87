import SuiteRunner.Text.Utf8

/-!
# Wildcard patterns

Patterns with `?`, `*`, `**`, classes in brackets and alternatives in braces.  A pattern is matched against the bytes of
a text as a whole: `?` is one byte, and `*` crosses slashes.

Main definitions:

* `Glob`, a sequence of `Glob.Part`s;
* `Glob.ofText?`, which fails where the pattern is malformed;
* `Glob.matches`.
-/

namespace SuiteRunner

namespace Glob

/-- A part of a pattern. -/
inductive Part where
  | literal (c : Char)
  /-- One byte. -/
  | one
  /-- Any bytes. -/
  | many
  /-- Any directories in front of a text. -/
  | leadingDirectories
  /-- Anything inside of a directory. -/
  | inside
  /-- A slash, or any directories between two slashes. -/
  | innerDirectories
  | oneOf (negated : Bool) (ranges : List (Char × Char))
  | alternatives (branches : List (List Part))
  deriving Repr, Inhabited

/-! ### Reading -/

/-- A state of the reader: the branches that are open, innermost first, each with its parts, last first.  A level is
one open brace with the branches closed in it; the pattern itself has the level at the end. -/
structure Reader where
  /-- The parts of the innermost open branch, last first. -/
  current : List Part
  /-- For each open brace, innermost first: the finished branches, last first, and the parts of the branch that the
  brace stands in. -/
  outer : List (List (List Part) × List Part)

/-- Adds a part. -/
def Reader.push (r : Reader) (p : Part) : Reader := { r with current := p :: r.current }

/-- Holds inside of braces. -/
def Reader.inBraces (r : Reader) : Bool := !r.outer.isEmpty

/-- Reads a class after its opening bracket and the sign of negation.  `first` holds for its first character,
`inRange` after a dash, and `ranges` are those so far, last first. -/
def readClass? (first inRange : Bool) (ranges : List (Char × Char)) :
    List Char → Option (List (Char × Char) × List Char)
  | [] => none
  | c :: rest =>
    if c = ']' && !first then
      some ((if inRange then ('-', '-') :: ranges else ranges).reverse, rest)
    else if c = '-' && !first && !inRange then readClass? false true ranges rest
    else
      match inRange, ranges with
      | true, (low, _) :: more => if c < low then none else readClass? false false ((low, c) :: more) rest
      | _, _ => readClass? false false ((c, c) :: ranges) rest

/-- Reads two stars, where `before` is the character in front of them, and gives the text after them. -/
def readStars (r : Reader) (before : Option Char) (rest : List Char) : Reader × List Char :=
  let plain := (r.push .many).push .many
  if r.current.isEmpty then
    match rest with
    | [] => (r.push .leadingDirectories, rest)
    | '/' :: more => (r.push .leadingDirectories, more)
    | _ => (plain, rest)
  else if before != some '/' && (!r.inBraces || (before != some ',' && before != some '\x7b')) then (plain, rest)
  else
    let close (isEnd : Bool) (rest : List Char) : Reader × List Char :=
      match r.current with
      | .leadingDirectories :: _ | .inside :: _ => (r, rest)
      | _ :: parts => ({ r with current := (if isEnd then .inside else .innerDirectories) :: parts }, rest)
      | [] => (r, rest)
    match rest with
    | [] => close true []
    | '/' :: more => close false more
    | c :: more => if r.inBraces && (c = ',' || c = '\x7d') then close true (c :: more) else (plain, rest)

/-- Reads a pattern; `before` is the character in front. -/
def read? (r : Reader) (before : Option Char) : Nat → List Char → Option (List Part)
  | 0, _ => none
  | _ + 1, [] => if r.inBraces then none else some r.current.reverse
  | fuel + 1, c :: rest =>
    match c, rest with
    | '?', _ => read? (r.push .one) (some c) fuel rest
    | '*', '*' :: more =>
      let (r', left) := readStars r before more
      read? r' (if left.length < more.length then some '/' else some '*') fuel left
    | '*', _ => read? (r.push .many) (some c) fuel rest
    | '[', _ =>
      let (negated, rest) := match rest with
        | '!' :: more | '^' :: more => (true, more)
        | _ => (false, rest)
      match readClass? true false [] rest with
      | none => none
      | some (ranges, rest) => read? (r.push (.oneOf negated ranges)) (some ']') fuel rest
    | '\x7b', _ => read? ⟨[], ([], r.current) :: r.outer⟩ (some c) fuel rest
    | '\x7d', _ =>
      match r.outer with
      | [] => none
      | (done, parts) :: outer =>
        read? ⟨.alternatives (r.current.reverse :: done).reverse :: parts, outer⟩ (some c) fuel rest
    | ',', _ =>
      match r.outer with
      | [] => read? (r.push (.literal c)) (some c) fuel rest
      | (done, parts) :: outer => read? ⟨[], (r.current.reverse :: done, parts) :: outer⟩ (some c) fuel rest
    | '\\', [] => none
    | '\\', d :: more => read? (r.push (.literal d)) (some d) fuel more
    | _, _ => read? (r.push (.literal c)) (some c) fuel rest

/-! ### Matching -/

/-- The bytes and byte ranges of a range of characters: the ends are taken byte by byte. -/
def byteRanges (low high : Char) : List (UInt8 × UInt8) :=
  let a := Utf8.encodeChar low
  let b := Utf8.encodeChar high
  if low = high then a.map fun x => (x, x)
  else
    (a.dropLast.map fun x => (x, x)) ++ [(a.getLast?.getD 0, b.head?.getD 0)] ++ ((b.drop 1).map fun x => (x, x))

/-- Holds when a byte is in the class. -/
def inClass (negated : Bool) (ranges : List (Char × Char)) (b : UInt8) : Bool :=
  (ranges.any fun (low, high) => (byteRanges low high).any fun (l, h) => l ≤ b && b ≤ h) != negated

/-- All ends of a text, longest first. -/
def tails : Bytes → List Bytes
  | [] => [[]]
  | b :: s => (b :: s) :: tails s

/-- The ends of a text that follow a slash, longest first. -/
def tailsAfterSlash : Bytes → List Bytes
  | [] => []
  | b :: s => if b = 47 then s :: tailsAfterSlash s else tailsAfterSlash s

/-- Texts without those whose length occurred before. -/
def distinct (rests : List Bytes) : List Bytes :=
  rests.foldl (fun kept s => if kept.any (·.length == s.length) then kept else kept ++ [s]) []

mutual

/-- What a part may leave of a text. -/
def Part.rests : Part → Bytes → List Bytes
  | .literal c, s => match dropFront (Utf8.encodeChar c) s with
    | some rest => [rest]
    | none => []
  | .one, s => match s with
    | [] => []
    | _ :: rest => [rest]
  | .many, s => tails s
  | .leadingDirectories, s => s :: tailsAfterSlash s
  | .inside, s => match s with
    | 47 :: rest => tails rest
    | _ => []
  | .innerDirectories, s => match s with
    | 47 :: rest => rest :: tailsAfterSlash rest
    | _ => []
  | .oneOf negated ranges, s => match s with
    | b :: rest => if inClass negated ranges b then [rest] else []
    | [] => []
  | .alternatives branches, s => if anyVisible branches then branchRests branches s else [s]
where
  /-- The text after the bytes `p`, if it starts with them. -/
  dropFront : Bytes → Bytes → Option Bytes
    | [], s => some s
    | _ :: _, [] => none
    | a :: p, b :: s => if a = b then dropFront p s else none

/-- What a sequence of parts may leave of any of some texts. -/
def partsRests : List Part → List Bytes → List Bytes
  | [], rests => rests
  | p :: ps, rests => partsRests ps (distinct (rests.flatMap fun s => p.rests s))

/-- What the branches may leave of a text; a branch without parts does not count. -/
def branchRests : List (List Part) → Bytes → List Bytes
  | [], _ => []
  | b :: bs, s => (if visible b then partsRests b [s] else []) ++ branchRests bs s

/-- Holds when a sequence has a part that is not an empty choice. -/
def visible : List Part → Bool
  | [] => false
  | p :: ps => p.isVisible || visible ps

/-- Holds for a part that is not an empty choice. -/
def Part.isVisible : Part → Bool
  | .alternatives branches => anyVisible branches
  | _ => true

/-- Holds when one of the branches has parts. -/
def anyVisible : List (List Part) → Bool
  | [] => false
  | b :: bs => visible b || anyVisible bs

end

end Glob

/-- A wildcard pattern. -/
structure Glob where
  parts : List Glob.Part
  deriving Repr

namespace Glob

/-- The pattern that a text describes. -/
def ofText? (s : List Char) : Option Glob := (read? ⟨[], []⟩ none (s.length + 1) s).map Glob.mk

/-- Holds when the pattern describes the whole text. -/
def «matches» (g : Glob) (s : List Char) : Bool :=
  match g.parts with
  | [.leadingDirectories] => true
  | parts => (partsRests parts [Utf8.encode s]).any (·.isEmpty)

end Glob

end SuiteRunner
