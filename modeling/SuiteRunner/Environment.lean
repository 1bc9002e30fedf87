import SuiteRunner.Text.Search

/-!
# The environment

The variables that the program can see, by name, and what the system knows of the user.
-/

namespace SuiteRunner

/-- Variables by their names, and the home directory that is on record for the account of the user. -/
structure Environment where
  bindings : List (String × String)
  accountHome : Option String
  deriving Repr

namespace Environment

/-- No variables, and nothing on record. -/
def empty : Environment := ⟨[], none⟩

/-- The value of a variable. -/
def get? (e : Environment) (name : String) : Option String := e.bindings.lookup name

/-- The home directory: a variable says it, or else the record of the account.  An empty path does not count. -/
def home? (e : Environment) : Option String :=
  let said (h : Option String) : Option String := h.filter fun h => !h.isEmpty
  said (e.get? "HOME") <|> said e.accountHome

end Environment

end SuiteRunner
