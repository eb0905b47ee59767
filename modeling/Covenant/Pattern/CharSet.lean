import Covenant.Text.Blank
import Covenant.Text.ScriptTable
import Covenant.Text.TraitTable
import Covenant.Text.WordTable
/-!
# Sets of characters

The sets that a pattern may ask a character to be in, built up from ranges and classes.

* `isWord` and `isDigit` are the word characters and decimal digits of Unicode.
* `caseCircle` are the characters that differ from one in case alone, itself included.
-/

namespace Covenant.Pattern

open Covenant.Text

/-! ## 1. Classes -/

/-- A character of words. -/
def isWord (c : Char) : Bool :=
  if c.toNat < 0x80 then c.isAlphanum || c == '_'
  else inRanges WordTable.wordRanges c.toNat

/-- A decimal digit. -/
def isDigit (c : Char) : Bool :=
  if c.toNat < 0x80 then c.isDigit else Category.decimalNumber.contains c

/-- The next character on the circle of those that differ in case alone. -/
def nextCase (c : Char) : Char := ((shiftBy? WordTable.foldRuns c.toNat).map Char.ofNat).getD c

/-- The characters that differ from `c` in case alone; there are at most four. -/
def caseCircle (c : Char) : List Char :=
  let second := nextCase c
  let third := nextCase second
  [c, second, third, nextCase third]

/-! ## 2. Sets -/

/-- A set of characters. Scripts and traits are given by their places in the tables. -/
inductive CharSet where
  | none
  | range (first last : Nat)
  | digit
  | word
  | blank
  | categories (kinds : List Category)
  | script (number : Nat)
  | trait (number : Nat)
  | union (a b : CharSet)
  | inter (a b : CharSet)
  | except (a b : CharSet)
  /-- What is in one of two sets, but not in both. -/
  | unshared (a b : CharSet)
  | complement (a : CharSet)
  /-- What is in a set or differs in case alone from something in it. -/
  | caseless (a : CharSet)
deriving Repr, DecidableEq, Inhabited

namespace CharSet

/-- The set of one character. -/
def single (c : Char) : CharSet := .range c.toNat c.toNat

/-- The set of the characters from one to another. -/
def span (first last : Char) : CharSet := .range first.toNat last.toNat

/-- The set of the characters of a list of ranges. -/
def ofRanges (ranges : List (Char × Char)) : CharSet :=
  ranges.foldl (fun set range => .union set (span range.1 range.2)) .none

/-- The characters of ASCII. -/
def ascii : CharSet := .range 0 0x7F

/-- The character is in the set. -/
def contains : CharSet → Char → Bool
  | .none, _ => false
  | .range first last, c => first ≤ c.toNat && c.toNat ≤ last
  | .digit, c => isDigit c
  | .word, c => isWord c
  | .blank, c => isBlank c
  | .categories kinds, c => kinds.any (·.contains c)
  | .script number, c => ScriptTable.scripts[number]?.any (·.contains c)
  | .trait number, c => TraitTable.traits[number]?.any (·.holds c)
  | .union a b, c => a.contains c || b.contains c
  | .inter a b, c => a.contains c && b.contains c
  | .except a b, c => a.contains c && !b.contains c
  | .unshared a b, c => a.contains c != b.contains c
  | .complement a, c => !a.contains c
  | .caseless a, c => (caseCircle c).any fun d => a.contains d

/-- The number of ranges that are left when neighbouring ones are joined. -/
def rangeCount (ranges : List (Nat × Nat)) : Nat :=
  let sorted := ranges.mergeSort fun a b => a.1 ≤ b.1
  (sorted.foldl (fun (count, after) range =>
    (if range.1 == after then count else count + 1, range.2 + 1)) (0, 0x110000)).1

/-- The room that ranges of code points take in a compiled pattern, in bytes. -/
def rangesWeight (ranges : List (Nat × Nat)) : Nat := 64 * rangeCount ranges

/-- The room that a trait takes in a compiled pattern, in bytes. -/
def traitWeight (t : Trait) : Nat :=
  rangesWeight (t.added ++ t.categories.flatMap Category.ranges) + rangesWeight t.removed

/-- A measure of the room that the set takes in a compiled pattern, in bytes. -/
def weight : CharSet → Nat
  | .none => 32
  | .range _ last => if last < 0x80 then 32 else 64
  | .digit => 4000
  | .word => 50000
  | .blank => 500
  | .categories kinds => rangesWeight (kinds.flatMap Category.ranges)
  | .script number => (ScriptTable.scripts[number]?.map (rangesWeight ·.ranges)).getD 32
  | .trait number => (TraitTable.traits[number]?.map traitWeight).getD 32
  | .union a b => a.weight + b.weight
  | .inter a b => max a.weight b.weight
  | .except a b => a.weight + b.weight
  | .unshared a b => a.weight + b.weight
  | .complement a => a.weight + 300
  | .caseless a => 2 * a.weight

end CharSet

end Covenant.Pattern
