/-!
# The calendar

Dates of the Gregorian calendar, carried on without a break before its introduction and with a
year zero, and their numbering by days from 1 January 1970. The year is taken to begin in March,
so that the leap day is its last, and four hundred years always have the same number of days.
-/

namespace Arbitration

/-- A year, a month and a day of the month, not necessarily one that exists. -/
structure Date where
  year : Int
  month : Nat
  day : Nat
  deriving DecidableEq, Repr

namespace Date

/-- Whether a year has a leap day. -/
def isLeapYear (year : Int) : Bool :=
  year % 4 == 0 && (year % 100 != 0 || year % 400 == 0)

/-- The number of days in a month. -/
def daysInMonth (year : Int) (month : Nat) : Nat :=
  match month with
  | 2 => if isLeapYear year then 29 else 28
  | 4 | 6 | 9 | 11 => 30
  | _ => 31

/-- Whether the month and the day exist. -/
def exists? (d : Date) : Bool :=
  1 ≤ d.month && d.month ≤ 12 && 1 ≤ d.day && d.day ≤ daysInMonth d.year d.month

/-- The number of days in four hundred years. -/
def daysInCycle : Int := 146097

/-- The days from 1 March of the year zero to 1 January 1970. -/
def daysToEpoch : Int := 719468

/-- The number of a date, counted from 1 January 1970. -/
def toDays (d : Date) : Int :=
  let year := if d.month ≤ 2 then d.year - 1 else d.year
  let yearOfCycle := year % 400
  let dayOfYear : Int := (153 * ((d.month + 9) % 12) + 2) / 5 + d.day - 1
  year / 400 * daysInCycle + yearOfCycle * 365 + yearOfCycle / 4 - yearOfCycle / 100 + dayOfYear
    - daysToEpoch

/-- The date with a number. -/
def ofDays (n : Int) : Date :=
  let shifted := n + daysToEpoch
  let dayOfCycle := shifted % daysInCycle
  let yearOfCycle :=
    (dayOfCycle - dayOfCycle / 1460 + dayOfCycle / 36524 - dayOfCycle / 146096) / 365
  let dayOfYear := dayOfCycle - (365 * yearOfCycle + yearOfCycle / 4 - yearOfCycle / 100)
  let monthOfYear := (5 * dayOfYear + 2) / 153
  let day := dayOfYear - (153 * monthOfYear + 2) / 5 + 1
  let month := if monthOfYear < 10 then monthOfYear + 3 else monthOfYear - 9
  let year := yearOfCycle + shifted / daysInCycle * 400
  ⟨if month ≤ 2 then year + 1 else year, month.toNat, day.toNat⟩

end Date

end Arbitration
