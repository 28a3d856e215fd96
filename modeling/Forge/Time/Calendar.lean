/-!
# The calendar

Days are counted from 1970-01-01, before which they are negative. `Date.ofDay` finds the day in
the Gregorian calendar, which is taken to hold for all time: 400 years have 146097 days. Years are
counted from March on, so that the leap day ends them.
-/

namespace Forge

/-- A day of the Gregorian calendar. -/
structure Date where
  year : Int
  month : Nat
  day : Nat
deriving DecidableEq, Repr

namespace Date

/-- The days from the first day of March of year 0 to 1970-01-01. -/
def epochShift : Int := 719468

/-- The date of a day, counted from 1970-01-01. -/
def ofDay (n : Int) : Date :=
  let z := n + epochShift
  let era := z / 146097
  let dayOfEra := (z % 146097).toNat
  let yearOfEra :=
    (dayOfEra - dayOfEra / 1460 + dayOfEra / 36524 - dayOfEra / 146096) / 365
  let dayOfYear := dayOfEra - (365 * yearOfEra + yearOfEra / 4 - yearOfEra / 100)
  let m := (5 * dayOfYear + 2) / 153
  let month := if m < 10 then m + 3 else m - 9
  let year : Int := yearOfEra + era * 400
  ⟨if month ≤ 2 then year + 1 else year, month, dayOfYear - (153 * m + 2) / 5 + 1⟩

/-- Whether a year has a leap day. -/
def isLeap (year : Int) : Bool :=
  year % 4 == 0 && (year % 100 != 0 || year % 400 == 0)

/-- The number of days of a month. -/
def daysIn (year : Int) (month : Nat) : Nat :=
  if month = 2 then (if isLeap year then 29 else 28)
  else if month = 4 ∨ month = 6 ∨ month = 9 ∨ month = 11 then 30 else 31

/-- Whether the calendar has the date, from the year 1 on. -/
def isReal (d : Date) : Bool :=
  decide (1 ≤ d.year) && decide (1 ≤ d.month) && decide (d.month ≤ 12) &&
    decide (1 ≤ d.day) && decide (d.day ≤ daysIn d.year d.month)

end Date

/-- A day and a second of it, both in universal time. -/
structure Moment where
  date : Date
  hour : Nat
  minute : Nat
  second : Nat
deriving DecidableEq, Repr

/-- The moment that lies `n` seconds after the start of 1970. -/
def Moment.ofSeconds (n : Int) : Moment :=
  let s := (n % 86400).toNat
  ⟨Date.ofDay (n / 86400), s / 3600, s / 60 % 60, s % 60⟩

end Forge
