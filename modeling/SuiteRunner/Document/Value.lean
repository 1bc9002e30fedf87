/-!
# Documents to write

`Value` is a document as the program composes it: scalars, lists, and objects whose members keep their order.  The
writers of the file formats take a `Value`.
-/

namespace SuiteRunner

/-- A document to be written. -/
inductive Value where
  | null
  | bool (b : Bool)
  | int (n : Int)
  | text (s : String)
  | list (items : List Value)
  | object (members : List (String × Value))
  deriving Repr, Inhabited

namespace Value

/-- A whole number that is not negative. -/
def nat (n : Nat) : Value := int n

/-- A text, or null in its absence. -/
def textOrNull : Option String → Value
  | some s => text s
  | none => null

/-- A number, or null in its absence. -/
def natOrNull : Option Nat → Value
  | some n => nat n
  | none => null

/-- A list of texts. -/
def texts (items : List String) : Value := list (items.map text)

/-- The members of an object that are present. -/
def present (members : List (String × Option Value)) : List (String × Value) :=
  members.filterMap fun (name, v) => v.map (name, ·)

end Value

end SuiteRunner
