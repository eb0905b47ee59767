import Covenant.Text.Category
/-!
# Properties of characters

What the tables of scripts and traits are made of.

* `Script.contains` says that a character is written in a script. The ranges of a script may run
  over code points without a character, which belong to no script.
* `Trait.holds` says that a character has a property that every character has or lacks.
-/

namespace Covenant.Text

/-- A script: its names and its ranges. -/
structure Script where
  names : List String
  ranges : List (Nat × Nat)
deriving Inhabited

/-- The character is one of the script. -/
def Script.contains (script : Script) (c : Char) : Bool :=
  inRanges script.ranges c.toNat && isAssigned c

/-- A property that a character has or lacks: its names, the categories that have it, the code
points which have it besides, and those of the categories which lack it. -/
structure Trait where
  names : List String
  categories : List Category
  added : List (Nat × Nat)
  removed : List (Nat × Nat)
deriving Inhabited

/-- The character has the property. -/
def Trait.holds (t : Trait) (c : Char) : Bool :=
  inRanges t.added c.toNat ||
    (t.categories.any (·.contains c) && !inRanges t.removed c.toNat)

end Covenant.Text
