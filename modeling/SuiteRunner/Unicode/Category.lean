/-!
# General categories of characters

The thirty general categories of Unicode, their two-letter and long names, and the search of a table of code
point ranges.

Main definitions:

* `Category` and `Category.groups`, the names of several categories at once;
* `Category.named?`, which reads a set of categories from a loosely written name;
* `rangeValue?`, the value that a sorted table gives to a code point.
-/

namespace SuiteRunner.Unicode

/-- A general category, by its two-letter name. -/
inductive Category where
  | lu | ll | lt | lm | lo
  | mn | mc | me
  | nd | nl | no
  | pc | pd | ps | pe | pi | pf | po
  | sm | sc | sk | so
  | zs | zl | zp
  | cc | cf | cs | co | cn
  deriving DecidableEq, Repr, Inhabited

namespace Category

/-- Every category with its short and its long name, both in lower case and without separators. -/
def names : List (Category × String × String) := [
  (lu, "lu", "uppercaseletter"), (ll, "ll", "lowercaseletter"), (lt, "lt", "titlecaseletter"),
  (lm, "lm", "modifierletter"), (lo, "lo", "otherletter"),
  (mn, "mn", "nonspacingmark"), (mc, "mc", "spacingmark"), (me, "me", "enclosingmark"),
  (nd, "nd", "decimalnumber"), (nl, "nl", "letternumber"), (no, "no", "othernumber"),
  (pc, "pc", "connectorpunctuation"), (pd, "pd", "dashpunctuation"), (ps, "ps", "openpunctuation"),
  (pe, "pe", "closepunctuation"), (pi, "pi", "initialpunctuation"), (pf, "pf", "finalpunctuation"),
  (po, "po", "otherpunctuation"),
  (sm, "sm", "mathsymbol"), (sc, "sc", "currencysymbol"), (sk, "sk", "modifiersymbol"),
  (so, "so", "othersymbol"),
  (zs, "zs", "spaceseparator"), (zl, "zl", "lineseparator"), (zp, "zp", "paragraphseparator"),
  (cc, "cc", "control"), (cf, "cf", "format"), (cs, "cs", "surrogate"), (co, "co", "privateuse"),
  (cn, "cn", "unassigned")]

/-- The names of sets of several categories, with their members. -/
def groups : List (List String × List Category) := [
  (["l", "letter"], [lu, ll, lt, lm, lo]),
  (["lc", "casedletter"], [lu, ll, lt]),
  (["m", "mark", "combiningmark"], [mn, mc, me]),
  (["n", "number"], [nd, nl, no]),
  (["nd", "digit"], [nd]),
  (["p", "punctuation", "punct"], [pc, pd, ps, pe, pi, pf, po]),
  (["s", "symbol"], [sm, sc, sk, so]),
  (["z", "separator"], [zs, zl, zp]),
  (["c", "other"], [cc, cf, cs, co, cn]),
  (["cntrl"], [cc])]

/-- The categories that a name in lower case and without separators stands for. -/
def named? (name : String) : Option (List Category) :=
  match groups.find? fun g => g.1.contains name with
  | some g => some g.2
  | none => (names.find? fun n => n.2.1 == name || n.2.2 == name).map fun n => [n.1]

/-- Letters of any kind. -/
def isLetter (c : Category) : Bool := [lu, ll, lt, lm, lo].contains c

/-- Combining marks of any kind. -/
def isMark (c : Category) : Bool := [mn, mc, me].contains c

/-- Numbers of any kind. -/
def isNumber (c : Category) : Bool := [nd, nl, no].contains c

end Category

/-- The value that a table of ranges `(first, last, value)`, in ascending order, gives to a code point. -/
def rangeValue? {α : Type} (table : Array (Nat × Nat × α)) (c : Nat) : Option α :=
  search 0 table.size
where
  /-- Bisects the rows from `low` up to `high`. -/
  search (low high : Nat) : Option α :=
    if low < high then
      let mid := (low + high) / 2
      match table[mid]? with
      | none => none
      | some (first, last, value) =>
        if c < first then search low mid
        else if last < c then search (mid + 1) high
        else some value
    else none
  termination_by high - low

end SuiteRunner.Unicode
