/-!
# The calendar

Days of the proleptic Gregorian calendar, counted from the first day of the year 1970.
`Date.toDays` and `Date.ofDays` convert between a date and its number.  The year of a day is
estimated by the mean length of a year and corrected by at most one; the month is found by going
through the lengths of the months.
-/

namespace ClusterGateway

namespace Time

/-- Whether a year has 366 days. -/
def isLeapYear (year : Int) : Bool :=
  year % 4 == 0 && (year % 100 != 0 || year % 400 == 0)

/-- The days from the start of the year zero to the start of a year. -/
def yearStart (year : Int) : Int :=
  365 * year + (year + 3) / 4 - (year + 99) / 100 + (year + 399) / 400

/-- The days from the start of the year zero to the start of 1970. -/
def epochDay : Int := 719528

/-- The lengths of the months of a year. -/
def monthLengths (year : Int) : List Nat :=
  [31, if isLeapYear year then 29 else 28, 31, 30, 31, 30, 31, 31, 30, 31, 30, 31]

/-- A calendar day. -/
structure Date where
  /-- The year; the year before 1 is 0. -/
  year : Int
  /-- The month, from 1. -/
  month : Nat
  /-- The day of the month, from 1. -/
  day : Nat
  deriving Repr, DecidableEq, Inhabited

namespace Date

/-- Whether the calendar has the day. -/
def isValid (d : Date) : Bool :=
  match (monthLengths d.year)[d.month - 1]? with
  | some length => 1 ≤ d.month && 1 ≤ d.day && d.day ≤ length
  | none => false

/-- The days of a year before the start of a month. -/
def daysBefore (year : Int) (month : Nat) : Nat :=
  ((monthLengths year).take (month - 1)).foldl (· + ·) 0

/-- The number of a day, counted from the start of 1970. -/
def toDays (d : Date) : Int :=
  yearStart d.year + daysBefore d.year d.month + d.day - 1 - epochDay

/-- The month and the day of the month of the day `n` of the months with the given lengths, both
counted from 1; `month` is the first of these months. -/
def monthAndDay (month : Nat) : List Nat → Nat → Nat × Nat
  | [], n => (month, n + 1)
  | length :: lengths, n =>
    if n < length then (month, n + 1) else monthAndDay (month + 1) lengths (n - length)

/-- The year of a day, counted from the start of the year zero. -/
def yearOf (day : Int) : Int :=
  let year := day * 400 / 146097
  if day < yearStart year then year - 1
  else if yearStart (year + 1) ≤ day then year + 1
  else year

/-- The date of a day, counted from the start of 1970. -/
def ofDays (days : Int) : Date :=
  let day := days + epochDay
  let year := yearOf day
  let (month, dayOfMonth) := monthAndDay 1 (monthLengths year) (day - yearStart year).toNat
  ⟨year, month, dayOfMonth⟩

end Date

end Time

end ClusterGateway
