import Covenant.Decimal.Numeral
import Covenant.Yaml.Node
/-!
# What a plain scalar means

A plain scalar without a tag is null, a boolean, a whole number, a floating-point number or a
text, the first that its text can be read as. A tag can ask for one of them.

* A whole number is decimal, or hexadecimal, octal or binary after `0x`, `0o` or `0b`, with a sign
  in front. Digits that begin with a zero are a text.
* Numbers that fit into 64 bits are whole; those that need up to 128 are out of range; a longer
  row of digits is a floating-point number.
-/

namespace Covenant.Yaml

open Covenant.Decimal

/-- What a scalar stands for. -/
inductive Meaning where
  | null
  | flag (value : Bool)
  | whole (value : Int)
  | outOfRange
  | real (numeral : Numeral)
  /-- An infinity, or what is not a number. -/
  | unreal
  | text
deriving Repr, DecidableEq, Inhabited

/-! ## 1. Words -/

/-- The words for null. -/
def isNullWord (s : String) : Bool := ["null", "Null", "NULL", "~"].contains s

/-- The boolean that a word names. -/
def flagWord? (s : String) : Option Bool :=
  if ["true", "True", "TRUE"].contains s then some true
  else if ["false", "False", "FALSE"].contains s then some false
  else none

/-! ## 2. Whole numbers -/

/-- The value of a digit of any base up to sixteen. -/
def anyDigit? (c : Char) : Option Nat :=
  if c.isDigit then some (c.toNat - 0x30)
  else if 'a' ≤ c && c ≤ 'f' then some (c.toNat - 0x57)
  else if 'A' ≤ c && c ≤ 'F' then some (c.toNat - 0x37)
  else none

/-- The number that digits of a base spell; there must be one. -/
def digits? (base : Nat) (s : List Char) : Option Nat :=
  if s.isEmpty then none
  else s.foldl (fun n c => n.bind fun n =>
    (anyDigit? c).bind fun d => if d < base then some (n * base + d) else none) (some 0)

/-- The text without a leading plus, and whether a minus was there instead. -/
def splitSign : List Char → Bool × List Char
  | '+' :: r => (false, r)
  | '-' :: r => (true, r)
  | s => (false, s)

/-- Two or more digits of which the first is a zero. -/
def isZeroPadded (s : List Char) : Bool :=
  match s with
  | '0' :: c :: r => (c :: r).all Char.isDigit
  | _ => false

/-- The base that a mark in front of the digits asks for, and the digits. -/
def baseMark? : List Char → Option (Nat × List Char)
  | '0' :: 'x' :: r => some (16, r)
  | '0' :: 'o' :: r => some (8, r)
  | '0' :: 'b' :: r => some (2, r)
  | _ => none

/-- The whole number that a text spells, of whatever size. -/
def whole? (s : List Char) : Option Int :=
  let (negative, digits) := splitSign s
  let magnitude := match baseMark? digits with
    | some (base, marked) => digits? base marked
    | none => if isZeroPadded digits then none else digits? 10 digits
  magnitude.map fun n => if negative then -(n : Int) else n

/-- The numbers of 64 bits, signed or unsigned. -/
def fits64 (n : Int) : Bool := -Int.pow 2 63 ≤ n && n < Int.pow 2 64

/-- The numbers of 128 bits, signed or unsigned. -/
def fits128 (n : Int) : Bool := -Int.pow 2 127 ≤ n && n < Int.pow 2 128

/-! ## 3. Floating-point numbers -/

/-- The exponent after a mark: absent where the text ends, refused where no digit follows. -/
def exponent? : List Char → Option Int
  | [] => some 0
  | c :: r =>
    if c == 'e' || c == 'E' then
      let (negative, digits) := splitSign r
      (digits? 10 digits).map fun n => if negative then -(n : Int) else n
    else none

/-- The decimal numeral that a text without a plus spells: digits with a point at most, at least
one digit, and an exponent. -/
def numeral? (s : List Char) : Option Numeral :=
  let (negative, body) := splitSign s
  let whole := body.takeWhile Char.isDigit
  let rest := body.dropWhile Char.isDigit
  let (fraction, tail) := match rest with
    | '.' :: r => (r.takeWhile Char.isDigit, r.dropWhile Char.isDigit)
    | r => ([], r)
  if whole.isEmpty && fraction.isEmpty then none
  else (exponent? tail).map fun power =>
    ⟨negative, whole ++ fraction, power - fraction.length⟩

/-- The floating-point number that a text spells. One that has no double near it is a text. -/
def real? (s : String) : Option Meaning :=
  let unsigned := if s.toList.head? == some '+' then s.toList.drop 1 else s.toList
  let positive := String.ofList unsigned
  if s.toList.head? == some '+' && (unsigned.head? == some '+' || unsigned.head? == some '-') then
    none
  else if [".inf", ".Inf", ".INF"].contains positive || ["-.inf", "-.Inf", "-.INF"].contains s ||
      [".nan", ".NaN", ".NAN"].contains s then some .unreal
  else match numeral? unsigned with
    | some numeral => if numeral.exceedsDouble then none else some (.real numeral)
    | none => none

/-! ## 4. Scalars -/

/-- The number that a text spells, whole or not. -/
def number? (s : String) : Option Meaning :=
  match whole? s.toList with
  | some n =>
    if fits64 n then some (.whole n)
    else if fits128 n then some .outOfRange
    else if (baseMark? (splitSign s.toList).2).isSome then none
    else real? s
  | none => if isZeroPadded (splitSign s.toList).2 then none else real? s

/-- The meaning of a plain scalar without a tag. -/
def plainMeaning (s : String) : Meaning :=
  if s.isEmpty || isNullWord s then .null
  else match flagWord? s with
    | some b => .flag b
    | none => (number? s).getD .text

/-- The tags of YAML that ask for a meaning. -/
def tagOf (name : String) : String := "tag:yaml.org,2002:" ++ name

/-- The meaning of a scalar; absent where its text cannot be read as its tag asks. -/
def meaning? (tag : Option String) (style : Style) (s : String) : Option Meaning :=
  match tag with
  | none => some (if style == .plain then plainMeaning s else .text)
  | some name =>
    if name == tagOf "bool" then (flagWord? s).map .flag
    else if name == tagOf "int" then
      match whole? s.toList with
      | some n => if fits64 n then some (.whole n) else if fits128 n then some .outOfRange else none
      | none => none
    else if name == tagOf "float" then real? s
    else if name == tagOf "null" then if isNullWord s then some .null else none
    else some .text

/-- A tag of the document's own, which begins with an exclamation mark. -/
def isLocalTag (tag : Option String) : Bool := tag.any fun name => name.toList.head? == some '!'

end Covenant.Yaml
