/-!
# Identifiers of one scope

A converted name becomes an identifier that nothing else in its scope has.

* `spell` repairs a single name: a fallback for the empty one, `_` before a leading digit and
  `_` after a reserved word.
* `firstFree` appends 2, 3, … until the name is free; among one more candidate than there are
  names taken one is free, so the search is bounded.
* `claim` is both, and records the result in the scope.
-/

namespace Covenant.Naming

/-- The identifiers taken so far in one scope, the latest first. -/
abbrev Scope := List String

/-- A converted name that is neither empty nor reserved and begins with no digit. A name that
is reserved already gains the suffix after the digit rule. -/
def spell (reserved : List String) (fallback converted : String) : String :=
  let name := if converted.isEmpty then fallback else converted
  let name := if name.toList.head?.any Char.isDigit then "_" ++ name else name
  if reserved.contains name then name ++ "_" else name

/-- The first of `name ++ k`, `name ++ (k + 1)`, … that is not taken, among `fuel + 1` of them. -/
def firstFreeFrom (taken : Scope) (name : String) : Nat → Nat → String
  | 0, k => name ++ toString k
  | fuel + 1, k =>
    if taken.contains (name ++ toString k) then firstFreeFrom taken name fuel (k + 1)
    else name ++ toString k

/-- `name` itself, or else the first of `name2`, `name3`, … that is not taken. -/
def firstFree (taken : Scope) (name : String) : String :=
  if taken.contains name then firstFreeFrom taken name taken.length 2 else name

/-- The identifier for a converted name, and the scope that holds it. -/
def claim (reserved : List String) (fallback converted : String) (taken : Scope) :
    String × Scope :=
  let name := firstFree taken (spell reserved fallback converted)
  (name, name :: taken)

end Covenant.Naming
