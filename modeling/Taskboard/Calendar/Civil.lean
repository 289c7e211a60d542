/-! Dates of the proleptic Gregorian calendar, counted in days from 1 January 1970.

    The count is taken from 1 March of the year 0, so that a leap day is the last day of its year and
    the months have the lengths 31, 30, 31, 30, 31, 31, 30, 31, 30, 31, 31 and 28 or 29: month `m` of
    such a year begins on its day `(153 · m + 2) / 5`. Four hundred years, an era, have 146097 days. -/

namespace Taskboard

structure Date where
  year : Int
  month : Nat
  day : Nat
deriving DecidableEq

namespace Date

/-- The days of four hundred years. -/
def daysPerEra : Nat := 146097

/-- The number of 1 January 1970, counted from 1 March of the year 0. -/
def epoch : Nat := 719468

/-- The year of its era that a day of the era lies in. Every 1460 days hold a leap day, but no 36524
    days do and all 146096 do. -/
def yearOfEra (day : Nat) : Nat := (day - day / 1460 + day / 36524 - day / 146096) / 365

/-- The day of the era on which a year of the era begins. -/
def startOfYear (year : Nat) : Nat := 365 * year + year / 4 - year / 100

/-- The date of the day with the given number. -/
def ofDays (days : Int) : Date :=
  let count := days + epoch
  let era := count / daysPerEra
  let dayOfEra := (count % daysPerEra).toNat
  let year := yearOfEra dayOfEra
  let dayOfYear := dayOfEra - startOfYear year
  let month := (5 * dayOfYear + 2) / 153
  let day := dayOfYear - (153 * month + 2) / 5 + 1
  if month < 10 then ⟨year + 400 * era, month + 3, day⟩
  else ⟨year + 400 * era + 1, month - 9, day⟩

end Date
end Taskboard
