import SuiteRunner.Text.Numeral
import SuiteRunner.Text.Search

/-!
# Grammars of command lines

A grammar says which options, positional arguments and subcommands a command has.  `CommandSpec.parse` reads the
arguments of a command.

Main definitions:

* `ValueKind`, what a value has to be;
* `ArgAction`, what becomes of an option each time it is given;
* `OptionSpec`, `PositionalSpec` and `CommandSpec`;
* `UsageFault`, the reasons why arguments are refused;
* `Matches`, what was given to one command, and `CommandSpec.parse`.

The values of an option are checked when the next option is met, or at the end of the arguments of the command.  The
arguments of a subcommand are read before what is still open of the command above it.
-/

namespace SuiteRunner

/-! ### Specifications -/

/-- What a value has to be. -/
inductive ValueKind where
  | text
  /-- A path; it cannot be empty. -/
  | path
  /-- A number up to a greatest one.  A plus sign may stand before it; where it is `signed`, a minus sign may stand
  before zero. -/
  | number (signed : Bool) (max : Nat)
  deriving DecidableEq, Repr

/-- What becomes of an option each time it is given. -/
inductive ArgAction where
  /-- It is on; it may be given once. -/
  | flag
  /-- Its occurrences are counted. -/
  | count
  /-- It has a value; it may be given once. -/
  | set (kind : ValueKind)
  /-- Its values are collected. -/
  | append (kind : ValueKind)
  | help
  | version
  deriving DecidableEq, Repr

/-- The kind of the values, for options that have some. -/
def ArgAction.valueKind? : ArgAction → Option ValueKind
  | set kind | append kind => some kind
  | _ => none

/-- An option. -/
structure OptionSpec where
  name : String
  letter : Option Char
  action : ArgAction
  deriving DecidableEq, Repr

/-- Arguments without an option. -/
structure PositionalSpec where
  name : String
  kind : ValueKind
  /-- Whether there may be more than one. -/
  repeated : Bool
  deriving DecidableEq, Repr

/-- Positional arguments as an option without a name. -/
def PositionalSpec.option (p : PositionalSpec) : OptionSpec :=
  ⟨p.name, none, if p.repeated then .append p.kind else .set p.kind⟩

/-- A command. -/
structure CommandSpec where
  name : String
  options : List OptionSpec
  positional : Option PositionalSpec
  /-- If there are any, one of them has to be given. -/
  subcommands : List CommandSpec
  /-- The pairs of options that cannot be given together. -/
  conflicts : List (String × String)

/-- The reasons why arguments are refused. -/
inductive UsageFault where
  | unknownArgument
  | invalidSubcommand
  | argumentConflict
  | valueValidation
  | invalidValue
  | tooManyValues
  | missingSubcommand
  | displayHelp
  | displayHelpOnMissingArgumentOrSubcommand
  | displayVersion
  deriving DecidableEq, Repr

/-- The name of a reason. -/
def UsageFault.name : UsageFault → String
  | unknownArgument => "UnknownArgument"
  | invalidSubcommand => "InvalidSubcommand"
  | argumentConflict => "ArgumentConflict"
  | valueValidation => "ValueValidation"
  | invalidValue => "InvalidValue"
  | tooManyValues => "TooManyValues"
  | missingSubcommand => "MissingSubcommand"
  | displayHelp => "DisplayHelp"
  | displayHelpOnMissingArgumentOrSubcommand => "DisplayHelpOnMissingArgumentOrSubcommand"
  | displayVersion => "DisplayVersion"

/-! ### Matches -/

/-- What was given to one command: the values of its options, by their names. -/
structure Matches where
  entries : List (String × List String)
  deriving DecidableEq, Repr

namespace Matches

/-- Nothing. -/
def empty : Matches := ⟨[]⟩

/-- Holds when an option was given. -/
def has (m : Matches) (name : String) : Bool := m.entries.any (·.1 = name)

/-- The values of an option. -/
def values (m : Matches) (name : String) : List String := (m.entries.lookup name).getD []

/-- The last value of an option. -/
def value? (m : Matches) (name : String) : Option String := (m.values name).getLast?

/-- Adds values to those of an option. -/
def add (m : Matches) (name : String) (vs : List String) : Matches :=
  ⟨(name, m.values name ++ vs) :: m.entries.filter (·.1 ≠ name)⟩

end Matches

/-- The number that a value is. -/
def ValueKind.number? (kind : ValueKind) (value : String) : Option Nat :=
  match kind with
  | number true max => (Numeral.intWithin? 10 0 max value.toList).map Int.toNat
  | number false max => Numeral.natUpTo? 10 max value.toList
  | text | path => none

/-- Checks a value. -/
def ValueKind.check (kind : ValueKind) (value : String) : Except UsageFault Unit :=
  match kind with
  | text => .ok ()
  | path => if value.isEmpty then .error .invalidValue else .ok ()
  | number _ _ => if (kind.number? value).isSome then .ok () else .error .valueValidation

/-- What a command has been given so far. -/
structure Reading where
  given : Matches
  /-- An option whose values are not complete, and those that are there. -/
  pending : Option (OptionSpec × List String)
  deriving DecidableEq, Repr

namespace Reading

/-- Nothing was given. -/
def start : Reading := ⟨.empty, none⟩

/-- Records an option with its values. -/
def record (r : Reading) (o : OptionSpec) (values : List String) : Except UsageFault Reading :=
  let once (values : List String) : Except UsageFault Reading :=
    if r.given.has o.name then .error .argumentConflict else .ok { r with given := r.given.add o.name values }
  let needed (kind : ValueKind) (next : Except UsageFault Reading) : Except UsageFault Reading := do
    if values.isEmpty then throw .invalidValue
    let r ← next
    values.forM kind.check
    return r
  match o.action with
  | .flag => once []
  | .count => .ok { r with given := r.given.add o.name [""] }
  | .set kind => needed kind (once values)
  | .append kind => needed kind (.ok { r with given := r.given.add o.name values })
  | .help => .error .displayHelp
  | .version => .error .displayVersion

/-- Completes the option that is pending. -/
def settle (r : Reading) : Except UsageFault Reading :=
  match r.pending with
  | none => .ok r
  | some (o, values) => { r with pending := none }.record o values

/-- Takes an option with its values. -/
def take (r : Reading) (o : OptionSpec) (values : List String) : Except UsageFault Reading := do
  (← r.settle).record o values

/-- An option begins, whose value is the next argument. -/
def begin (r : Reading) (o : OptionSpec) : Except UsageFault Reading := do
  return { ← r.settle with pending := some (o, []) }

/-- A value of the option that is pending. -/
def push (r : Reading) (value : String) : Reading :=
  { r with pending := r.pending.map fun (o, values) => (o, values ++ [value]) }

end Reading

/-! ### Commands -/

namespace CommandSpec

/-- The option of a name. -/
def option? (c : CommandSpec) (name : String) : Option OptionSpec := c.options.find? (·.name = name)

/-- The option of a letter. -/
def letter? (c : CommandSpec) (letter : Char) : Option OptionSpec := c.options.find? (·.letter = some letter)

/-- The subcommand of a name. -/
def subcommand? (c : CommandSpec) (name : String) : Option CommandSpec := c.subcommands.find? (·.name = name)

/-- What comes next: a new argument, or the value of the option that is pending. -/
inductive Next where
  | argument
  | value
  deriving DecidableEq, Repr

/-- Takes an option that may have a value attached. -/
def takeOption (r : Reading) (o : OptionSpec) (attached : Option String) : Except UsageFault (Reading × Next) :=
  match o.action.valueKind?, attached with
  | none, none => (r.take o []).map (·, .argument)
  | none, some _ => .error .tooManyValues
  | some _, some value => (r.take o [value]).map (·, .argument)
  | some _, none => (r.begin o).map (·, .value)

/-- Takes an option by its name, which may be followed by a sign and a value. -/
def takeLong (c : CommandSpec) (r : Reading) (arg : List Char) : Except UsageFault (Reading × Next) :=
  let (name, attached) : List Char × Option String :=
    match Text.splitAt? ['='] arg with
    | some (name, value) => (name, some (String.ofList value))
    | none => (arg, none)
  match c.option? (String.ofList name) with
  | some o => takeOption r o attached
  | none => .error .unknownArgument

/-- Takes options by their letters.  What follows the letter of an option with a value is its value. -/
def takeLetters (c : CommandSpec) (r : Reading) : List Char → Except UsageFault (Reading × Next)
  | [] => .ok (r, .argument)
  | letter :: rest =>
    match c.letter? letter with
    | none => .error .unknownArgument
    | some o =>
      if o.action.valueKind?.isNone then
        match r.take o [] with
        | .ok r => c.takeLetters r rest
        | .error f => .error f
      else
        match rest with
        | [] => takeOption r o none
        | '=' :: value => takeOption r o (some (String.ofList value))
        | value => takeOption r o (some (String.ofList value))

/-- Takes a positional argument. -/
def takePositional (r : Reading) (p : PositionalSpec) (arg : String) : Except UsageFault Reading :=
  if p.repeated && (r.pending.map (·.1)) = some p.option then .ok (r.push arg)
  else (r.begin p.option).map (·.push arg)

/-- Holds when the one positional argument of a command is there. -/
def isFull (r : Reading) (p : PositionalSpec) : Bool :=
  !p.repeated && (r.given.has p.name || (r.pending.map (·.1)) = some p.option)

/-- The fault of an argument that has no place in the command. -/
def misplaced (c : CommandSpec) (trailing : Bool) (arg : String) : UsageFault :=
  if c.subcommands.isEmpty then .unknownArgument
  else if trailing && (c.subcommand? arg).isSome then .unknownArgument
  else .invalidSubcommand

/-- Looks for the subcommand that help is asked for. -/
def helpOn (c : CommandSpec) : List String → UsageFault
  | [] => .displayHelp
  | name :: rest =>
    match c.subcommand? name with
    | some s => s.helpOn rest
    | none => .invalidSubcommand

/-- Checks what was given to a command in the end. -/
def validate (c : CommandSpec) (m : Matches) (hasSubcommand : Bool) : Except UsageFault Unit :=
  if !hasSubcommand && !c.subcommands.isEmpty then
    .error (if m.entries.isEmpty then .displayHelpOnMissingArgumentOrSubcommand else .missingSubcommand)
  else if c.conflicts.any fun (a, b) => m.has a && m.has b then .error .argumentConflict
  else .ok ()

/-- Completes the reading of a command. -/
def complete (c : CommandSpec) (r : Reading) (hasSubcommand : Bool) : Except UsageFault (String × Matches) := do
  let r ← r.settle
  c.validate r.given hasSubcommand
  return (c.name, r.given)

/-- The name of the subcommand that shows help. -/
def helpName : String := "help"

/-- Reads arguments.  After two dashes (`trailing`) only positional ones follow.  The result lists the commands that
were given, each inside of the one before it. -/
def parseFrom (c : CommandSpec) (r : Reading) (next : Next) (trailing : Bool) :
    List String → Except UsageFault (List (String × Matches))
  | [] => (c.complete r false).map ([·])
  | arg :: rest =>
    let place (r : Reading) : Except UsageFault (List (String × Matches)) :=
      match c.positional with
      | some p =>
        if isFull r p then .error (c.misplaced trailing arg)
        else
          match takePositional r p arg with
          | .ok r => c.parseFrom r .argument trailing rest
          | .error f => .error f
      | none => .error (c.misplaced trailing arg)
    if trailing then place r
    else
      match if next = .argument then c.subcommand? arg else none with
      | some s =>
        if s.name = helpName then .error (c.helpOn rest)
        else do
          let inner ← s.parseFrom .start .argument false rest
          return (← c.complete r true) :: inner
      | none =>
        let taken : Option (Except UsageFault (Reading × Next)) :=
          match arg.toList with
          | '-' :: '-' :: name => some (c.takeLong r name)
          | '-' :: letter :: letters => some (c.takeLetters r (letter :: letters))
          | _ => none
        if arg = "--" then c.parseFrom r next true rest
        else
          match taken with
          | some (.ok (r, next)) => c.parseFrom r next false rest
          | some (.error f) => .error f
          | none => if next = .value then c.parseFrom (r.push arg) .argument false rest else place r

/-- Reads the arguments of a command. -/
def parse (c : CommandSpec) (args : List String) : Except UsageFault (List (String × Matches)) :=
  c.parseFrom .start .argument false args

end CommandSpec

end SuiteRunner
