import Covenant.Decimal.Numeral
/-!
# Shortest decimal text of a double

* `nearest` rounds a decimal numeral to the nearest double, a tie to the even one.
* `shortest` finds, for 1, 2, … digits, the decimal nearest to the double that still rounds to it;
  the first number of digits with such a decimal wins.
* `Numeral.text` writes the digits: positionally from `1e-5` up to `1e16`, with an exponent
  outside, and always with a mark that the number is not whole.
-/

namespace Covenant.Decimal

/-! ## 1. Doubles -/

/-- A double without its sign: `mantissa · 2 ^ exponent`. -/
structure Binary where
  mantissa : Nat
  exponent : Int
deriving Repr, DecidableEq

/-- `num / den` rounded to the nearest whole number, a half to the even neighbour. -/
def roundHalfEven (num den : Nat) : Nat :=
  let quotient := num / den
  let rest := 2 * (num % den)
  if rest < den || (rest == den && quotient % 2 == 0) then quotient else quotient + 1

/-- `num / den` in units of `2 ^ exponent`, rounded. -/
def roundAt (num den : Nat) (exponent : Int) : Nat :=
  roundHalfEven (num * Nat.pow 2 (-exponent).toNat) (den * Nat.pow 2 exponent.toNat)

/-- The double nearest to `num / den`. -/
def Binary.ofRatio (num den : Nat) : Binary :=
  let estimate : Int := (Nat.log2 num : Int) - Nat.log2 den - 52
  let candidates := [estimate - 1, estimate, estimate + 1, estimate + 2].map (max (-1074))
  let exponent := (candidates.find? fun e => roundAt num den e < Nat.pow 2 53).getD (estimate + 2)
  ⟨roundAt num den exponent, exponent⟩

/-- The double nearest to a numeral, without its sign. -/
def Numeral.nearest (n : Numeral) : Binary :=
  let value := readDigits n.significant
  if value == 0 || n.order < -330 then ⟨0, -1074⟩
  else .ofRatio (value * Nat.pow 10 n.exponent.toNat) (Nat.pow 10 (-n.exponent).toNat)

/-! ## 2. Digits -/

/-- The number of decimal digits of a number. -/
def digitCount (n : Nat) : Nat := (toString n).length

/-- The quarter-steps of the double's last place that bound the values which round to it. -/
def Binary.bounds (b : Binary) : Nat × Nat :=
  let low := if b.mantissa == Nat.pow 2 52 && -1074 < b.exponent then 4 * b.mantissa - 1
    else 4 * b.mantissa - 2
  (low, 4 * b.mantissa + 2)

/-- The whole number `c` for which `c · 10 ^ power` is the decimal nearest to the double among
those that round to it, if there is one. -/
def Binary.onGrid? (b : Binary) (power : Int) : Option Nat :=
  let unit := b.exponent - 2
  let quarters (x : Nat) := x * Nat.pow 2 unit.toNat * Nat.pow 10 (-power).toNat
  let step := Nat.pow 10 power.toNat * Nat.pow 2 (-unit).toNat
  let (low, high) := b.bounds
  let value := quarters (4 * b.mantissa)
  let inside (c : Nat) :=
    if b.mantissa % 2 == 0 then quarters low ≤ c * step && c * step ≤ quarters high
    else quarters low < c * step && c * step < quarters high
  let floor := value / step
  let nearFloor := 2 * (value - floor * step) < step ||
    (2 * (value - floor * step) == step && floor % 2 == 0)
  let ordered := if nearFloor then [floor, floor + 1] else [floor + 1, floor]
  ordered.find? fun c => 0 < c && inside c

/-- The power of ten just above a double that is not zero. -/
def Binary.magnitude (b : Binary) : Int :=
  let num := b.mantissa * Nat.pow 2 b.exponent.toNat
  let den := Nat.pow 2 (-b.exponent).toNat
  let estimate : Int := (digitCount num : Int) - digitCount den
  if den * Nat.pow 10 estimate.toNat ≤ num * Nat.pow 10 (-estimate).toNat then estimate + 1
  else estimate

/-- Digits and power of ten of the shortest decimal that rounds to the double. -/
def Binary.shortest (b : Binary) : Nat × Int :=
  let top := b.magnitude
  let found := (List.range 17).findSome? fun (n : Nat) =>
    (b.onGrid? (top - (n + 1))).map fun c => (c, top - (n + 1))
  found.getD (b.mantissa, b.exponent)

/-! ## 3. Text -/

/-- The digits without zeros at the end, and the power of ten that this makes. -/
def stripZeros (digits : List Char) (power : Int) : List Char × Int :=
  let stripped := (digits.reverse.dropWhile (· == '0')).reverse
  (stripped, power + (digits.length - stripped.length : Nat))

/-- A row of zeros. -/
def zeros (n : Nat) : List Char := List.replicate n '0'

/-- A double that is not zero, from its digits and its power of ten. -/
def layOut (digits : List Char) (power : Int) : List Char :=
  let point : Int := digits.length + power
  if 0 ≤ power && point ≤ 16 then digits ++ zeros power.toNat ++ ['.', '0']
  else if 0 < point && point ≤ 16 then
    digits.take point.toNat ++ '.' :: digits.drop point.toNat
  else if -5 < point && point ≤ 0 then ['0', '.'] ++ zeros (-point).toNat ++ digits
  else
    let exponent := 'e' :: (toString (point - 1)).toList
    match digits with
    | [d] => d :: exponent
    | d :: rest => d :: '.' :: rest ++ exponent
    | [] => exponent

/-- The shortest text that reads back as the double nearest to a numeral. -/
def Numeral.text (n : Numeral) : String :=
  let b := n.nearest
  let sign := if n.negative then ['-'] else []
  if b.mantissa == 0 then .ofList (sign ++ ['0', '.', '0'])
  else
    let (c, power) := b.shortest
    let (digits, power) := stripZeros (toString c).toList power
    .ofList (sign ++ layOut digits power)

end Covenant.Decimal
