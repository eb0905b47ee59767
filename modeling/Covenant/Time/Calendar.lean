/-!
# The calendar

Days of the Gregorian calendar, counted from the first of January 1970; the calendar goes on before
its introduction and before the year 0.

* Years are counted from March, so that the day of February that comes and goes is the last one.
* `dayNumber` and `Date.ofDay` are the two directions.
-/

namespace Covenant.Time

/-- A day of the calendar. -/
structure Date where
  year : Int
  month : Nat
  day : Nat
deriving Repr, DecidableEq, Inhabited

/-- A year with 366 days. -/
def isLeap (year : Int) : Bool := year % 4 == 0 && (year % 100 != 0 || year % 400 == 0)

/-- The number of days of a month. -/
def monthLength (year : Int) (month : Nat) : Nat :=
  match month with
  | 2 => if isLeap year then 29 else 28
  | 4 => 30
  | 6 => 30
  | 9 => 30
  | 11 => 30
  | _ => 31

/-- The date is a day of the calendar. -/
def Date.isValid (date : Date) : Bool :=
  1 ≤ date.month && date.month ≤ 12 && 1 ≤ date.day && date.day ≤ monthLength date.year date.month

/-- The day on which the count of days begins, counted from the first of March of the year 0. -/
def epochShift : Int := 719468

/-- The number of days since the first of January 1970. -/
def Date.dayNumber (date : Date) : Int :=
  let year := if date.month ≤ 2 then date.year - 1 else date.year
  let month : Int := ((date.month + 9) % 12 : Nat)
  365 * year + year / 4 - year / 100 + year / 400 + (153 * month + 2) / 5 + date.day - 1
    - epochShift

/-- The date of a number of days since the first of January 1970. -/
def Date.ofDay (number : Int) : Date :=
  let shifted := number + epochShift
  let cycle := shifted / 146097
  let inCycle := shifted % 146097
  let yearOfCycle := (inCycle - inCycle / 1460 + inCycle / 36524 - inCycle / 146096) / 365
  let inYear := inCycle - (365 * yearOfCycle + yearOfCycle / 4 - yearOfCycle / 100)
  let fromMarch := (5 * inYear + 2) / 153
  let month := if fromMarch < 10 then fromMarch + 3 else fromMarch - 9
  let year := yearOfCycle + cycle * 400 + if month ≤ 2 then 1 else 0
  ⟨year, month.toNat, (inYear - (153 * fromMarch + 2) / 5 + 1).toNat⟩

end Covenant.Time
