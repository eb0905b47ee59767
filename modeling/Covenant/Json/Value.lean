import Covenant.Decimal.Numeral
/-!
# JSON values

A value after reading: members have distinct names, and numbers are whole where they were
written whole and fit into 64 bits.
-/

namespace Covenant.Json

open Covenant.Decimal

/-- A number: whole, or the double nearest to a numeral. -/
inductive Number where
  | whole (value : Int)
  | double (numeral : Numeral)
deriving Repr, DecidableEq, Inhabited

/-- A JSON value. -/
inductive Value where
  | null
  | flag (value : Bool)
  | number (value : Number)
  | text (value : String)
  | items (values : List Value)
  | members (values : List (String × Value))
deriving Repr, Inhabited

/-- The whole numbers that are kept exactly: those of 64 bits, signed or unsigned. -/
def Number.fits (n : Int) : Bool := -Int.pow 2 63 ≤ n && n < Int.pow 2 64

/-- The number that a whole numeral stands for; it is no longer exact outside 64 bits, and minus
zero is a double. Absent where no finite double is near. -/
def Number.ofWhole? (numeral : Numeral) : Option Number :=
  let magnitude := readDigits (numeral.significant.take 21)
  let value : Int := if numeral.negative then -(magnitude : Int) else magnitude
  if numeral.negative && magnitude == 0 then some (.double numeral)
  else if numeral.significant.length ≤ 20 && Number.fits value then some (.whole value)
  else if numeral.exceedsDouble then none
  else some (.double numeral)

/-- The number that a numeral with a point or an exponent stands for. -/
def Number.ofReal? (numeral : Numeral) : Option Number :=
  if numeral.exceedsDouble then none else some (.double numeral)

/-- The text of a text value. -/
def Value.text? : Value → Option String
  | .text s => some s
  | _ => none

end Covenant.Json
