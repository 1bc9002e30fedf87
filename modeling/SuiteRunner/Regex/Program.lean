import SuiteRunner.Regex.Pattern

/-!
# Matching

A pattern is turned into a program of small instructions, and the program is run over a text with a list of
threads in order of preference, so that the time is bounded by the product of the sizes of program and text.  The
match found is the leftmost one, and of those the one that the pattern prefers.

Main definitions:

* `Program` and `Program.ofPattern`;
* `Program.find?`, the leftmost match from a place on;
* `Program.removeAll`, which deletes all matches, from left to right without overlap.
-/

namespace SuiteRunner.Regex

/-- One instruction; targets are indices of instructions. -/
inductive Instruction where
  | accept
  | char (set : CharClass) (next : Nat)
  | look (l : Look) (next : Nat)
  | split (targets : List Nat)
  deriving Repr, Inhabited

/-- A program with its first instruction. -/
structure Program where
  code : Array Instruction
  start : Nat

namespace Program

/-! ### Compilation -/

/-- Appends an instruction; gives its index. -/
def emit (i : Instruction) (code : Array Instruction) : Nat × Array Instruction := (code.size, code.push i)

/-- The two targets in order of preference. -/
def choice (greedy : Bool) (more stop : Nat) : Instruction :=
  .split (if greedy then [more, stop] else [stop, more])

/-- Puts `n` copies in front of `next`. -/
def copies (compile : Nat → Array Instruction → Nat × Array Instruction) :
    Nat → Nat → Array Instruction → Nat × Array Instruction
  | 0, next, code => (next, code)
  | n + 1, next, code =>
    let (start, code) := compile next code
    copies compile n start code

/-- Puts up to `n` nested optional copies in front of `stop`. -/
def optionals (compile : Nat → Array Instruction → Nat × Array Instruction) (greedy : Bool) (stop : Nat) :
    Nat → Nat → Array Instruction → Nat × Array Instruction
  | 0, next, code => (next, code)
  | n + 1, next, code =>
    let (body, code) := compile next code
    let (start, code) := emit (choice greedy body stop) code
    optionals compile greedy stop n start code

/-- Compiles a pattern in front of the instruction `next`; gives the index of its first instruction. -/
def compile : Pattern → Nat → Array Instruction → Nat × Array Instruction
  | .empty, next, code => (next, code)
  | .char set, next, code => emit (.char set next) code
  | .look l, next, code => emit (.look l next) code
  | .captured p, next, code => compile p next code
  | .seq p q, next, code =>
    let (second, code) := compile q next code
    compile p second code
  | .alt p q, next, code =>
    let (first, code) := compile p next code
    let (second, code) := compile q next code
    emit (.split [first, second]) code
  | .repeated min (some max) greedy p, next, code =>
    let (rest, code) := optionals (compile p) greedy next (max - min) next code
    copies (compile p) min rest code
  | .repeated 0 none greedy p, next, code =>
    let (loop, code) := emit (.split []) code
    let (body, code) := compile p loop code
    let code := code.setIfInBounds loop (choice greedy body next)
    if p.isNullable then emit (choice greedy body next) code else (loop, code)
  | .repeated (min + 1) none greedy p, next, code =>
    let (loop, code) := emit (.split []) code
    let (body, code) := compile p loop code
    let code := code.setIfInBounds loop (choice greedy body next)
    copies (compile p) min body code

/-- The program of a pattern. -/
def ofPattern (p : Pattern) : Program :=
  let (accept, code) := emit .accept #[]
  let (start, code) := compile p accept code
  ⟨code, start⟩

/-! ### Threads -/

/-- A thread: the instruction it waits at, and where its match started. -/
abbrev Thread := Nat × Nat

/-- The threads under way at a place, last first, with the instructions already reached there. -/
structure Threads where
  list : List Thread
  seen : Array Bool

/-- Follows looks and splits from the instructions on `stack`, in order of preference; each instruction is
reached once. -/
def follow (code : Array Instruction) (before after : Option Char) (origin : Nat) :
    Nat → List Nat → Threads → Threads
  | 0, _, t => t
  | _ + 1, [], t => t
  | fuel + 1, i :: stack, t =>
    if t.seen[i]?.getD true then follow code before after origin fuel stack t
    else
      let t := { t with seen := t.seen.setIfInBounds i true }
      match code[i]?.getD .accept with
      | .split targets => follow code before after origin fuel (targets ++ stack) t
      | .look l next =>
        follow code before after origin fuel (if l.holds before after then next :: stack else stack) t
      | _ => follow code before after origin fuel stack { t with list := (i, origin) :: t.list }

/-- A bound on the steps of `follow`: every instruction is expanded once, into two targets at most. -/
def followFuel (code : Array Instruction) : Nat := 3 * code.size + 4

/-- No threads. -/
def noThreads (code : Array Instruction) : Threads := ⟨[], Array.replicate code.size false⟩

/-- The threads that may go on after the character `c`, and the match that cuts off those behind it. -/
def step (code : Array Instruction) (position : Nat) (c : Char) (after : Option Char) :
    List Thread → Option (Nat × Nat) → Threads → Option (Nat × Nat) × Threads
  | [], found, next => (found, next)
  | (i, origin) :: threads, found, next =>
    match code[i]?.getD .accept with
    | .accept => (some (origin, position), next)
    | .char set target =>
      let next :=
        if set.contains c then follow code (some c) after origin (followFuel code) [target] next else next
      step code position c after threads found next
    | _ => step code position c after threads found next

/-- Runs over the text from a position on; `threads` are those under way, in order of preference. -/
def run (p : Program) (threads : List Thread) (found : Option (Nat × Nat)) (position : Nat) (before : Option Char) :
    List Char → Option (Nat × Nat)
  | [] =>
    let t := withStart p threads found position before none
    match t.find? fun (i, _) => match p.code[i]?.getD .accept with
      | .accept => true
      | _ => false with
    | some (_, origin) => some (origin, position)
    | none => found
  | c :: rest =>
    let t := withStart p threads found position before (some c)
    if t.isEmpty && found.isSome then found
    else
      let (found, next) := step p.code position c rest.head? t found (noThreads p.code)
      run p next.list.reverse found (position + 1) (some c) rest
where
  /-- The threads under way, and a new one behind them as long as no match is found. -/
  withStart (p : Program) (threads : List Thread) (found : Option (Nat × Nat)) (position : Nat)
      (before after : Option Char) : List Thread :=
    if found.isSome then threads
    else
      let seen := threads.foldl (fun (s : Array Bool) t => s.setIfInBounds t.1 true)
        (Array.replicate p.code.size false)
      let t := follow p.code before after position (followFuel p.code) [p.start] ⟨[], seen⟩
      threads ++ t.list.reverse

/-- The leftmost preferred match from `position` on, as its first position and the one after its last. -/
def find? (p : Program) (position : Nat) (before : Option Char) (rest : List Char) : Option (Nat × Nat) :=
  run p [] none position before rest

/-- The text without the matches.  `rest` starts at `position`, after the character `before`; `last` is the end
of the match before it.  An empty match at that end does not count. -/
def removeFrom (p : Program) (last : Option Nat) (position : Nat) (before : Option Char) :
    Nat → List Char → List Char
  | 0, rest => rest
  | fuel + 1, rest =>
    match p.find? position before rest with
    | none => rest
    | some (a, b) =>
      if a = b && last = some b then
        match rest with
        | [] => []
        | c :: rest => c :: removeFrom p last (position + 1) (some c) fuel rest
      else
        let kept := rest.take (a - position)
        let gone := (rest.drop (a - position)).take (b - a)
        let before := (gone.getLast?.or kept.getLast?).or before
        kept ++ removeFrom p (some b) b before fuel (rest.drop (b - position))

/-- The text without the matches, found from left to right without overlap. -/
def removeAll (p : Program) (text : List Char) : List Char :=
  removeFrom p none 0 none (2 * text.length + 2) text

end Program

/-- A regular expression that was read, with its text. -/
structure Matcher where
  text : String
  program : Program

/-- Reads a regular expression. -/
def Matcher.ofText (text : String) : Except Fault Matcher := do
  return ⟨text, Program.ofPattern (← Pattern.ofText text.toList)⟩

end SuiteRunner.Regex
