import Covenant.Time.Stamp
import Covenant.Toml.Node
import Covenant.Toml.Text
/-!
# Scalars of TOML

What an unquoted word stands for: a boolean, a whole number, a number with a point or an exponent,
or a date or time.

* Underscores may stand between digits. A decimal number has no zeros in front of it.
* Whole numbers have up to 128 bits, and a number must have a finite double near it.
-/

namespace Covenant.Toml

open Covenant.Decimal Covenant.Text Covenant.Time

/-! ## 1. Numbers -/

/-- A word without its sign; `true` says that it is negative. -/
def splitSign : List Char → Bool × List Char
  | '-' :: rest => (true, rest)
  | '+' :: rest => (false, rest)
  | s => (false, s)

/-- The digits of a number with underscores between them. -/
def digitsOf? (isDigit : Char → Bool) (s : List Char) : Option (List Char) :=
  let pieces := splitAtChar '_' s
  if pieces.all fun piece => !piece.isEmpty && piece.all isDigit then some pieces.flatten else none

/-- The digits of a decimal number without zeros in front. -/
def decimal? (s : List Char) : Option (List Char) := do
  let digits ← digitsOf? Char.isDigit s
  if digits.head? == some '0' && digits.length != 1 then none else some digits

/-- The number of digits in a base. -/
def numberIn (base : Nat) (digits : List Char) : Nat :=
  digits.foldl (fun n c => n * base + (hexDigit? c).getD 0) 0

/-- The whole number in a base. -/
def inBase? (base : Nat) (s : List Char) : Option Nat :=
  (digitsOf? (fun c => (hexDigit? c).any (· < base)) s).map (numberIn base)

/-- The whole number of at most 128 bits that a word writes. -/
def whole? (s : List Char) : Option Int := do
  let value : Int ← match s with
    | '0' :: 'x' :: s => (inBase? 16 s).map Int.ofNat
    | '0' :: 'o' :: s => (inBase? 8 s).map Int.ofNat
    | '0' :: 'b' :: s => (inBase? 2 s).map Int.ofNat
    | s =>
      let (negative, s) := splitSign s
      (decimal? s).map fun digits =>
        if negative then -(readDigits digits : Int) else readDigits digits
  if -Int.pow 2 127 ≤ value && value < Int.pow 2 128 then some value else none

/-- The exponent of a number. -/
def exponent? (s : List Char) : Option Int :=
  let (negative, s) := splitSign s
  (digitsOf? Char.isDigit s).map fun digits =>
    if negative then -(readDigits digits : Int) else readDigits digits

/-- A word is a number with a point or an exponent that has a finite double near it. -/
def isReal (s : List Char) : Bool :=
  let (negative, s) := splitSign s
  if s == "inf".toList || s == "nan".toList then true
  else
    let isMark (c : Char) := c == 'e' || c == 'E'
    let mantissa := s.takeWhile (!isMark ·)
    let numeral : Option Numeral := do
      let exponent ← match s.dropWhile (!isMark ·) with
        | [] => if mantissa.contains '.' then some 0 else none
        | _ :: digits => exponent? digits
      let front ← decimal? (mantissa.takeWhile (· != '.'))
      let back ← match mantissa.dropWhile (· != '.') with
        | [] => some []
        | _ :: digits => digitsOf? Char.isDigit digits
      return ⟨negative, front ++ back, exponent - back.length⟩
    numeral.any fun numeral => !numeral.exceedsDouble

/-! ## 2. Dates and times -/

/-- The rest after the seconds of a time, if there are any, with their fraction. -/
def seconds? (s : List Char) : Option (List Char) :=
  match after? ':' s with
  | none => some s
  | some s => do
    let (second, s) ← digits? 2 s
    let (_, s) ← fraction? s
    if second ≤ 60 then some s else none

/-- The rest after a time. -/
def time? (s : List Char) : Option (List Char) := do
  let (hour, minute, s) ← clock? s
  if hour ≤ 23 && minute ≤ 59 then seconds? s else none

/-- A word is a date, a time, or a date and a time, perhaps with an offset. -/
def isMoment (s : List Char) : Bool :=
  match date? s with
  | none => time? s == some []
  | some (_, []) => true
  | some (_, mark :: s) =>
    (mark == 'T' || mark == 't' || mark == ' ') &&
      (time? s).any fun rest => rest.isEmpty || (offset? rest).isSome

/-! ## 3. Words -/

/-- A character of an unquoted word. -/
def isWordChar (c : Char) : Bool :=
  c.isAlphanum || c == '_' || c == '+' || c == '-' || c == '.' || c == ':'

/-- An unquoted word, and the rest; a time may follow a date after one space. -/
def word (s : List Char) : List Char × List Char :=
  let first := s.takeWhile isWordChar
  match s.dropWhile isWordChar with
  | ' ' :: rest =>
    let second := rest.takeWhile isWordChar
    if (date? first).any (·.2.isEmpty) && second.head?.any Char.isDigit then
      (first ++ ' ' :: second, rest.dropWhile isWordChar)
    else (first, ' ' :: rest)
  | rest => (first, rest)

/-- The value of an unquoted word. -/
def wordValue? (s : List Char) : Option Node :=
  if s == "true".toList then some (.flag true)
  else if s == "false".toList then some (.flag false)
  else match whole? s with
    | some value => some (.whole value)
    | none => if isReal s then some .real else if isMoment s then some .moment else none

/-- A value that is neither an array nor a table, and the rest. -/
def scalar? (s : List Char) : Option (Node × List Char) :=
  if s.head? == some '"' || s.head? == some '\'' then
    (text? s).map fun (text, rest) => (.text (.ofList text), rest)
  else
    let (chars, rest) := word s
    (wordValue? chars).map (·, rest)

end Covenant.Toml
