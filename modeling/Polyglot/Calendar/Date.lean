/-!
# Dates, instants and times of a clock

A date of the Gregorian calendar, extended to all years, and the number of days
from the first of January 1970 to it.  An instant is a number of seconds since
that day began.  Both ways between dates and days count in periods of 400 years
that begin with a March, so that a leap day ends a year.

A clock is finer than that and counts nanoseconds.  What it shows falls in the
second of an instant, and comes before another instant just if the beginning of
that second does (`ClockTime.lt_iff_instant_lt`).  A clock shows no leap seconds.
-/

set_option autoImplicit false

namespace Polyglot

/-- A day of the calendar. -/
structure Date where
  year : Int
  month : Nat
  day : Nat
  deriving DecidableEq, Repr

namespace Date

/-- Whether a year has a leap day. -/
def isLeap (year : Int) : Bool :=
  year % 4 == 0 && (year % 100 != 0 || year % 400 == 0)

/-- The number of days of a month. -/
def monthLength (year : Int) (month : Nat) : Nat :=
  if month = 2 then (if isLeap year then 29 else 28)
  else if month = 4 ∨ month = 6 ∨ month = 9 ∨ month = 11 then 30
  else 31

/-- The first and the last year of the calendar. -/
def firstYear : Int := -262143

/-- The last year of the calendar. -/
def lastYear : Int := 262142

/-- Whether there is such a day. -/
def isValid (date : Date) : Bool :=
  firstYear ≤ date.year && date.year ≤ lastYear && 1 ≤ date.month && date.month ≤ 12
    && 1 ≤ date.day && date.day ≤ monthLength date.year date.month

/-- The days of a period of 400 years. -/
def periodDays : Int := 146097

/-- The days from the beginning of the period that the year 0 is in to 1970. -/
def epochDays : Int := 719468

/-- The number of days from the first of January 1970 to a date. -/
def toDays (date : Date) : Int :=
  let year := if date.month ≤ 2 then date.year - 1 else date.year
  let yearOfPeriod := year % 400
  let monthFromMarch : Int := if date.month ≤ 2 then date.month + 9 else date.month - 3
  let dayOfYear := (153 * monthFromMarch + 2) / 5 + date.day - 1
  let dayOfPeriod := yearOfPeriod * 365 + yearOfPeriod / 4 - yearOfPeriod / 100 + dayOfYear
  year / 400 * periodDays + dayOfPeriod - epochDays

/-- The date a number of days after the first of January 1970. -/
def ofDays (days : Int) : Date :=
  let shifted := days + epochDays
  let dayOfPeriod := shifted % periodDays
  let yearOfPeriod :=
    (dayOfPeriod - dayOfPeriod / 1460 + dayOfPeriod / 36524 - dayOfPeriod / 146096) / 365
  let dayOfYear := dayOfPeriod - (365 * yearOfPeriod + yearOfPeriod / 4 - yearOfPeriod / 100)
  let monthFromMarch := (5 * dayOfYear + 2) / 153
  let month := if monthFromMarch < 10 then monthFromMarch + 3 else monthFromMarch - 9
  let year := yearOfPeriod + shifted / periodDays * 400
  { year := if month ≤ 2 then year + 1 else year
    month := month.toNat
    day := (dayOfYear - (153 * monthFromMarch + 2) / 5 + 1).toNat }

/-- The day of the week, from 0 for a Sunday to 6 for a Saturday. -/
def weekday (date : Date) : Nat :=
  ((date.toDays + 4) % 7).toNat

end Date

/-- A number of seconds since the beginning of 1970. -/
abbrev Instant : Type := Int

namespace Instant

/-- The seconds of a day. -/
def daySeconds : Int := 86400

/-- The date of an instant. -/
def date (instant : Instant) : Date :=
  Date.ofDays (instant / daySeconds)

/-- The seconds since the day of an instant began. -/
def secondOfDay (instant : Instant) : Nat :=
  (instant % daySeconds).toNat

/-- The instant a number of seconds after the beginning of a date. -/
def ofDate (date : Date) (seconds : Nat) : Instant :=
  date.toDays * daySeconds + seconds

/-- The greatest number of days that can be added to an instant. -/
def maxDays : Nat := 106751991167

/-- The instant a number of days later, if the calendar reaches that far. -/
def addDays? (instant : Instant) (days : Int) : Option Instant :=
  let later : Instant := instant + days * daySeconds
  if maxDays < days.natAbs then none
  else if Date.firstYear ≤ later.date.year ∧ later.date.year ≤ Date.lastYear then some later
  else none

end Instant

/-- What a clock shows: a number of nanoseconds since the beginning of 1970. -/
structure ClockTime where
  nanoseconds : Int
  deriving DecidableEq, Repr

namespace ClockTime

/-- The nanoseconds of a second. -/
def secondNanoseconds : Int := 1000000000

/-- The beginning of the second of an instant. -/
def ofInstant (instant : Instant) : ClockTime :=
  ⟨instant * secondNanoseconds⟩

instance : Coe Instant ClockTime := ⟨ofInstant⟩

instance (seconds : Nat) : OfNat ClockTime seconds := ⟨ofInstant seconds⟩

/-- The instant in whose second a time falls. -/
def instant (time : ClockTime) : Instant :=
  time.nanoseconds / secondNanoseconds

instance : LT ClockTime := ⟨fun one other => one.nanoseconds < other.nanoseconds⟩

instance (one other : ClockTime) : Decidable (one < other) :=
  inferInstanceAs (Decidable (one.nanoseconds < other.nanoseconds))

theorem lt_iff_instant_lt {time : ClockTime} {instant : Instant} :
    time < instant ↔ time.instant < instant :=
  (Int.ediv_lt_iff_lt_mul (by decide)).symm

end ClockTime

end Polyglot
