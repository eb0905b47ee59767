/-!
# Decimal numerals

A numeral is a sign, a row of digits and a power of ten: `digits · 10 ^ exponent`, the digits
read as one natural number.

* `order` places the first significant digit: the value is below `10 ^ order`.
* `exceedsDouble` says that the nearest double is infinite. The least such value is
  `2 ^ 1024 - 2 ^ 970`, half a unit above the greatest double; it has 309 digits.
-/

namespace Covenant.Decimal

/-- The value of a decimal digit. -/
def digitValue (c : Char) : Nat := c.toNat - '0'.toNat

/-- The number that a row of decimal digits spells. -/
def readDigits (digits : List Char) : Nat :=
  digits.foldl (fun n c => n * 10 + digitValue c) 0

/-- A decimal number as it is written. -/
structure Numeral where
  negative : Bool
  digits : List Char
  exponent : Int
deriving Repr, DecidableEq, Inhabited

/-- The digits from the first one that is not zero. -/
def Numeral.significant (n : Numeral) : List Char := n.digits.dropWhile (· == '0')

/-- The number of places before the point, for a value that is not zero. -/
def Numeral.order (n : Numeral) : Int := n.significant.length + n.exponent

/-- The least natural number whose nearest double is infinite. -/
def doubleLimit : Nat := Nat.pow 2 1024 - Nat.pow 2 970

/-- The nearest double is infinite. -/
def Numeral.exceedsDouble (n : Numeral) : Bool :=
  if n.significant.isEmpty then false
  else if n.order < 309 then false
  else if 309 < n.order then true
  else
    let top := n.significant.take 309
    doubleLimit ≤ readDigits top * Nat.pow 10 (309 - top.length)

end Covenant.Decimal
