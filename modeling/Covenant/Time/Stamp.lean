import Covenant.Decimal.Numeral
import Covenant.Time.Calendar
/-!
# Time stamps

A moment is a second of the Unix count, with its nanoseconds and the offset from UTC at which it
is told. A stamp is its text by RFC 3339.

* A stamp has years of four digits, so a moment outside of them has none; the same goes for an
  offset that is no whole number of minutes or a day long.
* A fraction is written without zeros at its end; of a fraction that is read nine digits count.
* Second 60 is read where UTC may insert one, at the end of a month, as the last nanosecond of the
  second before.
-/

namespace Covenant.Time

open Covenant.Decimal

/-! ## 1. Moments -/

/-- A moment as it is told at an offset, in seconds, from UTC. -/
structure Moment where
  unix : Int
  nanos : Nat
  offset : Int
deriving Repr, DecidableEq, Inhabited

/-- The seconds of a day. -/
def daySeconds : Int := 86400

/-- The date at the offset. -/
def Moment.date (moment : Moment) : Date := .ofDay ((moment.unix + moment.offset) / daySeconds)

/-- The second of the day at the offset. -/
def Moment.secondOfDay (moment : Moment) : Nat :=
  ((moment.unix + moment.offset) % daySeconds).toNat

/-! ## 2. Writing -/

/-- A number with zeros in front of it up to a width. -/
def padded (width n : Nat) : String :=
  let digits := (toString n).toList
  .ofList (List.replicate (width - digits.length) '0' ++ digits)

/-- The point and the digits of a fraction, or nothing. -/
def fraction (nanos : Nat) : String :=
  if nanos == 0 then ""
  else "." ++ .ofList ((padded 9 nanos).toList.reverse.dropWhile (· == '0')).reverse

/-- An offset, in whole minutes below a day. -/
def offsetText? (offset : Int) : Option String :=
  let minutes := offset.natAbs / 60
  if offset == 0 then some "Z"
  else if offset.natAbs % 60 != 0 || 24 * 60 ≤ minutes then none
  else some ((if offset < 0 then "-" else "+") ++ padded 2 (minutes / 60) ++ ":"
    ++ padded 2 (minutes % 60))

/-- The stamp of a moment. -/
def Moment.stamp? (moment : Moment) : Option String :=
  let date := moment.date
  let second := moment.secondOfDay
  if date.year < 0 || 9999 < date.year then none
  else (offsetText? moment.offset).map fun offset =>
    padded 4 date.year.toNat ++ "-" ++ padded 2 date.month ++ "-" ++ padded 2 date.day ++ "T"
      ++ padded 2 (second / 3600) ++ ":" ++ padded 2 (second / 60 % 60) ++ ":"
      ++ padded 2 (second % 60) ++ fraction moment.nanos ++ offset

/-! ## 3. Reading -/

/-- A number of exactly `width` digits, and the rest. -/
def digits? (width : Nat) (s : List Char) : Option (Nat × List Char) :=
  let taken := s.take width
  if taken.length == width && taken.all Char.isDigit then some (readDigits taken, s.drop width)
  else none

/-- The rest after a character. -/
def after? (c : Char) : List Char → Option (List Char)
  | [] => none
  | d :: rest => if d == c then some rest else none

/-- Two numbers of two digits with a colon between them, and the rest. -/
def clock? (s : List Char) : Option (Nat × Nat × List Char) := do
  let (first, s) ← digits? 2 s
  let (second, s) ← digits? 2 (← after? ':' s)
  return (first, second, s)

/-- A date, and the rest. -/
def date? (s : List Char) : Option (Date × List Char) := do
  let (year, s) ← digits? 4 s
  let (month, s) ← digits? 2 (← after? '-' s)
  let (day, s) ← digits? 2 (← after? '-' s)
  let date : Date := ⟨year, month, day⟩
  if date.isValid then some (date, s) else none

/-- The rest after the one character, of ASCII, between date and time. -/
def separator? : List Char → Option (List Char)
  | [] => none
  | c :: rest => if c.toNat < 0x80 then some rest else none

/-- A fraction of a second, if there is one, in nanoseconds, and the rest. -/
def fraction? (s : List Char) : Option (Nat × List Char) :=
  match after? '.' s with
  | none => some (0, s)
  | some s =>
    let digits := s.takeWhile Char.isDigit
    let nine := (digits ++ List.replicate 9 '0').take 9
    if digits.isEmpty then none else some (readDigits nine, s.dropWhile Char.isDigit)

/-- An offset in seconds, with nothing after it. -/
def offset? : List Char → Option Int
  | ['Z'] => some 0
  | ['z'] => some 0
  | sign :: s => do
    let (hours, minutes, rest) ← clock? s
    if rest.isEmpty && hours ≤ 23 && minutes ≤ 59 then
      let seconds : Int := ((hours * 60 + minutes) * 60 : Nat)
      if sign == '+' then some seconds else if sign == '-' then some (-seconds) else none
    else none
  | [] => none

/-- UTC may insert a second after the moment: it lies in the last second of a month. -/
def Moment.endsMonth (moment : Moment) : Bool :=
  let utc : Moment := { moment with offset := 0 }
  let date := utc.date
  utc.secondOfDay == 86399 && date.day == monthLength date.year date.month

/-- The moment that a stamp tells. -/
def Moment.ofStamp? (stamp : String) : Option Moment := do
  let (date, s) ← date? stamp.toList
  let (hour, minute, s) ← clock? (← separator? s)
  let (second, s) ← digits? 2 (← after? ':' s)
  let (nanos, s) ← fraction? s
  let offset ← offset? s
  let at_ (second nanos : Nat) : Moment :=
    ⟨date.dayNumber * daySeconds + ((hour * 60 + minute) * 60 + second : Nat) - offset, nanos,
      offset⟩
  if 24 ≤ hour || 60 ≤ minute || 60 < second then none
  else if second == 60 then
    let inserted := at_ 59 999999999
    if inserted.endsMonth then some inserted else none
  else some (at_ second nanos)

end Covenant.Time
