/-!
# Blank characters

The `White_Space` property of Unicode, and the operations that look at it.

* `isBlank c` holds of the 25 characters with the property.
* `trim`, `trimStart` and `trimEnd` remove the blank ends of a text.
* `trimEndOf ch` removes one chosen character from the end.
-/

namespace Covenant.Text

/-! ## 1. The property -/

/-- The characters with the `White_Space` property. -/
def isBlank (c : Char) : Bool :=
  let n := c.toNat
  (0x09 ≤ n && n ≤ 0x0D) || n == 0x20 || n == 0x85 || n == 0xA0 || n == 0x1680 ||
    (0x2000 ≤ n && n ≤ 0x200A) || n == 0x2028 || n == 0x2029 || n == 0x202F ||
    n == 0x205F || n == 0x3000

/-! ## 2. Ends of a text -/

/-- The text without its leading blanks. -/
def trimStart (s : List Char) : List Char := s.dropWhile isBlank

/-- The text without its trailing blanks. -/
def trimEnd (s : List Char) : List Char := (s.reverse.dropWhile isBlank).reverse

/-- The text without its leading and trailing blanks. -/
def trim (s : List Char) : List Char := trimEnd (trimStart s)

/-- The text without the trailing run of `ch`. -/
def trimEndOf (ch : Char) (s : List Char) : List Char :=
  (s.reverse.dropWhile (· == ch)).reverse

/-- Nothing but blanks. -/
def allBlank (s : List Char) : Bool := s.all isBlank

/-! ## 3. The same on strings -/

/-- `trim` on strings. -/
def trimString (s : String) : String := .ofList (trim s.toList)

/-- A string of nothing but blanks, the empty one included. -/
def blankString (s : String) : Bool := allBlank s.toList

end Covenant.Text
