import SuiteRunner.Shell.Arithmetic
import SuiteRunner.Shell.Builtin

/-!
# Running scripts

Main definitions:

* `expand`, the words that a word stands for;
* `run`, which runs a phrase;
* `runLines`, which runs a script line by line.

The fuel bounds the number of steps.  A script that needs more of them would not have ended in time.
-/

namespace SuiteRunner.Shell

/-- The text without the line ends at its end. -/
def dropNewlines (s : List Char) : String := String.ofList (s.reverse.dropWhile (· = '\n')).reverse

mutual

/-- Expands a word to words; in quotes it is one word throughout. -/
def expand : Nat → Streams → Nat → Bool → Word → Fields → Session → Fields × Session × Option Halt
  | 0, _, _, _, _, f, s => (f, s, some .outOfTime)
  | _ + 1, _, _, _, [], f, s => (f, s, none)
  | fuel + 1, streams, line, whole, piece :: rest, f, s =>
    let put (f : Fields) (quoted : Bool) (text : String) : Fields :=
      if quoted || whole then f.add text else f.split text
    match piece with
    | .text t _ => expand fuel streams line whole rest (f.add t) s
    | .arithmetic source quoted =>
      let (value, s, halt) := expandText fuel streams line (wordOf source) s
      if halt.isSome then (f, s, halt)
      else
        let assignTo (name : List Char) (n : Int) (s : Session) : Session := s.assign (String.ofList name) (toString n)
        let (target, source) : List Char × String :=
          match Text.splitAt? ['='] value.toList with
          | some (name, after) =>
            let name := (name.dropWhile Char.isWhitespace).reverse.dropWhile Char.isWhitespace |>.reverse
            if !name.isEmpty && name.all isNameChar && after.head? ≠ some '=' then (name, String.ofList after)
            else ([], value)
          | none => ([], value)
        match Arithmetic.value? (fun n => (s.lookup? n).getD "") source with
        | .ok n =>
          let s := if target.isEmpty then s else assignTo target n s
          expand fuel streams line whole rest (put f quoted (toString n)) s
        | .error e => (f, s.complain streams line (e.message ++ ": \"" ++ value ++ "\"") 2, some (.exit 2))
    | .output script quoted =>
      let (s, i) := s.openBuffer
      let (inner, halt) := runLines fuel { streams with output := .buffer i } (tokens script.toList) s
      let (inner, bytes) := inner.closeBuffer
      let text := dropNewlines (Utf8.decodeLossy bytes)
      let s := { inner with
        args := s.args
        bindings := s.bindings
        files := { inner.files with working := s.files.working } }
      match halt with
      | some .outOfTime | some (.killed _) => (f, s, halt)
      | some (.exit n) => expand fuel streams line whole rest (put f quoted text) (s.ended n)
      | _ => expand fuel streams line whole rest (put f quoted text) s
    | .parameter "@" "" true => expand fuel streams line whole rest (f.addAll s.args) s
    | .parameter name after quoted =>
      if name = "#" && after ≠ "" then
        expand fuel streams line whole rest (put f quoted (toString ((s.parameter? after).getD "").length)) s
      else
        let value := s.parameter? name
        let (colon, after) : Bool × List Char :=
          match after.toList with
          | ':' :: r => (true, r)
          | r => (false, r)
        let isSet := value.isSome && !(colon && value = some "")
        match after with
        | [] => expand fuel streams line whole rest (put f quoted (value.getD "")) s
        | op :: word =>
          let useWord := if op = '+' then isSet else !isSet
          if useWord && (op = '-' || op = '=' || op = '+' || op = '?') then
            let (text, s, halt) := expandText fuel streams line (wordOf (String.ofList word)) s
            if halt.isSome then (f, s, halt)
            else if op = '?' then
              let said := if word.isEmpty then "parameter not set" else text
              (f, s.complain streams line (name ++ ": " ++ said) 2, some (.exit 2))
            else
              let s := if op = '=' then s.assign name text else s
              expand fuel streams line whole rest (put f quoted text) s
          else expand fuel streams line whole rest (put f quoted (if op = '+' then "" else value.getD "")) s

/-- Expands a word to one text. -/
def expandText : Nat → Streams → Nat → Word → Session → String × Session × Option Halt
  | 0, _, _, _, s => ("", s, some .outOfTime)
  | fuel + 1, streams, line, w, s =>
    let (f, s, halt) := expand fuel streams line true w .none s
    (f.current.getD "", s, halt)

/-- Expands words one after the other. -/
def expandAll : Nat → Streams → Nat → List Word → Session → List String × Session × Option Halt
  | 0, _, _, _, s => ([], s, some .outOfTime)
  | _ + 1, _, _, [], s => ([], s, none)
  | fuel + 1, streams, line, w :: ws, s =>
    let (f, s, halt) := expand fuel streams line false w .none s
    if halt.isSome then ([], s, halt)
    else
      let (rest, s, halt) := expandAll fuel streams line ws s
      (f.toList ++ rest, s, halt)

/-- Expands the targets of redirections. -/
def expandTargets :
    Nat → Streams → Nat → List Redirect → Session → List (Nat × RedirectKind × String) × Session × Option Halt
  | 0, _, _, _, s => ([], s, some .outOfTime)
  | _ + 1, _, _, [], s => ([], s, none)
  | fuel + 1, streams, line, r :: rs, s =>
    let (target, s, halt) := expandText fuel streams line r.target s
    if halt.isSome then ([], s, halt)
    else
      let (rest, s, halt) := expandTargets fuel streams line rs s
      ((r.descriptor, r.kind, target) :: rest, s, halt)

/-- Makes assignments. -/
def assignAll : Nat → Streams → Nat → List (String × Word) → Session → Ran
  | 0, _, _, _, s => (s, some .outOfTime)
  | _ + 1, _, _, [], s => (s, none)
  | fuel + 1, streams, line, (name, w) :: rest, s =>
    let (value, s, halt) := expandText fuel streams line w s
    if halt.isSome then (s, halt) else assignAll fuel streams line rest (s.assign name value)

/-- Calls a program. -/
def call : Nat → Streams → Nat → String → List String → Session → Ran
  | 0, _, _, _, _, s => (s, some .outOfTime)
  | fuel + 1, streams, line, name, args, s =>
    match builtin? s streams line name args with
    | some r => r
    | none =>
      let program : Option String := if name.contains '/' then programAt? name else some name
      match name, program.bind tool?, program with
      | "exec", _, _ =>
        match args with
        | [] => (s.ended 0, none)
        | program :: args =>
          let (s, halt) := call fuel streams line program args s
          (s, some (halt.getD (.exit s.status)))
      | "eval", _, _ => runLines fuel streams (tokens (" ".intercalate args).toList) s
      | "[", some tool, _ | "test", some tool, _ =>
        let r := tool ⟨args, s.files, s.input⟩
        let complaint := if r.errors.isEmpty then [] else bytesOf (s.name ++ ": " ++ toString line ++ ": ") ++ r.errors
        settle s streams { r with errors := complaint }
      | _, some tool, _ => settle s streams (tool ⟨args, s.files, s.input⟩)
      | _, none, some "sh" =>
        let (inner, halt) := runShell fuel streams "sh" args s
        let s := { s with files := { inner.files with working := s.files.working }, elapsed := inner.elapsed
                          buffers := inner.buffers, input := inner.input }
        match halt with
        | some .outOfTime => (s, halt)
        | some (.killed n) => (s.ended (128 + n), none)
        | _ => (s.ended inner.status, none)
      | _, _, _ =>
        if name.contains '/' then
          match s.files.find name with
          | .ok _ => (s.complain streams line (name ++ ": Permission denied") 126, none)
          | .error _ => (s.complain streams line (name ++ ": not found") 127, none)
        else (s.complain streams line (name ++ ": not found") 127, none)

/-- Runs a shell with arguments. -/
def runShell : Nat → Streams → String → List String → Session → Ran
  | 0, _, _, _, s => (s, some .outOfTime)
  | fuel + 1, streams, name, args, s =>
    let s := { s with name := name, args := [], status := 0, stopOnFailure := false }
    match Called.ofArgs args ⟨none, false, false, []⟩ with
    | .error flag => (s.complain streams 0 ("Illegal option -" ++ String.singleton flag) 2, some (.exit 2))
    | .ok called =>
      let s := { s with stopOnFailure := called.stopOnFailure }
      let lines (script : List Char) (s : Session) : Ran :=
        if called.onlyRead then (s.ended 0, none) else runLines fuel streams (tokens script) s
      match called.script, called.rest with
      | some _, [] => (s.complain streams 0 "-c requires an argument" 2, some (.exit 2))
      | some _, script :: rest => lines script.toList { s with name := rest.head?.getD name, args := rest.drop 1 }
      | none, [] => lines (Utf8.decodeLossy s.input) { s with input := [] }
      | none, path :: rest =>
        match s.files.find path with
        | .error f =>
          let reason := match f with
            | .notFound | .notDirectory => "No such file"
            | f => f.reason
          (s.complain streams 0 ("cannot open " ++ path ++ ": " ++ reason) 2, some (.exit 2))
        | .ok (_, .directory) => (s.ended 0, none)
        | .ok (_, .file content) => lines (Utf8.decodeLossy content) { s with name := path, args := rest }

/-- Runs phrases one after the other. -/
def runAll : Nat → Streams → List Phrase → Session → Ran
  | 0, _, _, s => (s, some .outOfTime)
  | _ + 1, _, [], s => (s, none)
  | fuel + 1, streams, p :: ps, s =>
    let (s, halt) := run fuel streams p s
    if halt.isSome then (s, halt)
    else if s.stopOnFailure && s.status ≠ 0 then (s, some (.exit s.status))
    else runAll fuel streams ps s

/-- Runs the body of a loop for each of the values of a variable. -/
def runEach : Nat → Streams → String → List String → Phrase → Session → Ran
  | 0, _, _, _, _, s => (s, some .outOfTime)
  | _ + 1, _, _, [], _, s => (s, none)
  | fuel + 1, streams, name, value :: values, body, s =>
    let (s, halt) := run fuel streams body (s.assign name value)
    match halt with
    | none | some (.again 0) => runEach fuel streams name values body s
    | some (.leave 0) => (s, none)
    | some (.leave (n + 1)) => (s, some (.leave n))
    | some (.again (n + 1)) => (s, some (.again n))
    | halt => (s, halt)

/-- Runs the body of a loop as long as its test says so; `status` is that of the last turn. -/
def runLoop : Nat → Streams → Bool → Phrase → Phrase → Nat → Session → Ran
  | 0, _, _, _, _, _, s => (s, some .outOfTime)
  | fuel + 1, streams, fails, test, body, status, s =>
    let (s, halt) := run fuel streams test { s with stopOnFailure := false }
    if halt.isSome then (s, halt)
    else if (s.status = 0) = fails then (s.ended status, none)
    else
      let (s, halt) := run fuel streams body s
      match halt with
      | none | some (.again 0) => runLoop fuel streams fails test body s.status s
      | some (.leave 0) => (s, none)
      | some (.leave (n + 1)) => (s, some (.leave n))
      | some (.again (n + 1)) => (s, some (.again n))
      | halt => (s, halt)

/-- Runs a phrase in a shell of its own: only its files, its output and its time remain. -/
def runInner : Nat → Streams → Phrase → Session → Ran
  | 0, _, _, s => (s, some .outOfTime)
  | fuel + 1, streams, p, s =>
    let (inner, halt) := run fuel streams p s
    let s := { s with files := { inner.files with working := s.files.working }, elapsed := inner.elapsed
                      buffers := inner.buffers, input := inner.input, status := inner.status }
    match halt with
    | some (.exit n) => (s.ended n, none)
    | some .outOfTime | some (.killed _) => (s, halt)
    | _ => (s, none)

/-- Runs a phrase. -/
def run : Nat → Streams → Phrase → Session → Ran
  | 0, _, _, s => (s, some .outOfTime)
  | fuel + 1, streams, p, s =>
    let tested (s : Session) : Session := { s with stopOnFailure := false }
    let asBefore (t : Session) : Session := { t with stopOnFailure := s.stopOnFailure }
    match p with
    | .sequence items => runAll fuel streams items s
    | .both first second =>
      let (t, halt) := run fuel streams first (tested s)
      if halt.isSome then (t, halt)
      else if t.status = 0 then run fuel streams second (asBefore t)
      else (asBefore t, none)
    | .either first second =>
      let (t, halt) := run fuel streams first (tested s)
      if halt.isSome then (t, halt)
      else if t.status ≠ 0 then run fuel streams second (asBefore t)
      else (asBefore t, none)
    | .negate body =>
      let (t, halt) := run fuel streams body (tested s)
      (asBefore (t.ended (if t.status = 0 then 1 else 0)), halt)
    | .pipeline first second =>
      let (s, i) := s.openBuffer
      let (t, halt) := runInner fuel { streams with output := .buffer i } first s
      let (t, bytes) := t.closeBuffer
      if halt.isSome then (t, halt)
      else
        let (u, halt) := runInner fuel streams second { t with input := bytes }
        ({ u with input := t.input }, halt)
    | .background body =>
      let (t, _) := runInner fuel streams body { s with input := [] }
      ({ t with elapsed := s.elapsed, input := s.input, status := 0 }, none)
    | .subshell body => runInner fuel streams body s
    | .branch test body otherwise =>
      let (t, halt) := run fuel streams test (tested s)
      if halt.isSome then (t, halt)
      else if t.status = 0 then run fuel streams body (asBefore t)
      else run fuel streams otherwise (asBefore (t.ended 0))
    | .loop fails test body =>
      let (t, halt) := runLoop fuel streams fails test body 0 s
      (asBefore t, halt)
    | .each name words body =>
      match words with
      | none => runEach fuel streams name s.args body s
      | some ws =>
        let (values, s, halt) := expandAll fuel streams 0 ws s
        if halt.isSome then (s, halt) else runEach fuel streams name values body (s.ended 0)
    | .redirected body redirects =>
      let (targets, t, halt) := expandTargets fuel streams 0 redirects s
      if halt.isSome then (t, halt)
      else
        match redirect streams 0 t targets with
        | (t, none) => (t, none)
        | (t, some inner) =>
          let (u, halt) := run fuel inner body t
          ({ u with input := s.input }, halt)
    | .simple line assignments words redirects =>
      let (expanded, t, halt) := expandAll fuel streams line words s
      if halt.isSome then (t, halt)
      else
        let (targets, t, halt) := expandTargets fuel streams line redirects t
        if halt.isSome then (t, halt)
        else
          match redirect streams line t targets with
          | (t, none) => (t, none)
          | (t, some inner) =>
            match expanded with
            | [] => assignAll fuel inner line assignments (t.ended 0)
            | name :: args =>
              let (u, halt) := assignAll fuel inner line assignments t
              if halt.isSome then (u, halt)
              else
                let (u, halt) := call fuel inner line name args u
                let input := if redirects.any fun r => r.descriptor = 0 then s.input else u.input
                (if name = "export" then { u with input := input }
                  else { u with
                    input := input
                    bindings := if assignments.isEmpty then u.bindings else t.bindings }, halt)

/-- Runs a script line by line. -/
def runLines : Nat → Streams → List Placed → Session → Ran
  | 0, _, _, s => (s, some .outOfTime)
  | fuel + 1, streams, ts, s =>
    match readLine ts with
    | .error f =>
      let said := bytesOf (s.name ++ ": " ++ f.message ++ "\n")
      ((s.write streams.errors said).ended 2, some (.exit 2))
    | .ok none => (s, none)
    | .ok (some (p, rest)) =>
      let (s, halt) := run fuel streams p s
      if halt.isSome then (s, halt)
      else if s.stopOnFailure && s.status ≠ 0 then (s, some (.exit s.status))
      else runLines fuel streams rest s

end

end SuiteRunner.Shell
