/-!
# The calendar

Days of the proleptic Gregorian calendar as whole numbers, counted from 1970-01-01, and the way
back. Year zero is the year before year one.
-/

namespace Formula

/-- A day of the calendar; months and days count from one. -/
structure Date where
  year : Int
  month : Nat
  day : Nat
  deriving DecidableEq, Repr

namespace Calendar

/-- Whether a year has 366 days. -/
def isLeapYear (year : Int) : Bool :=
  year % 4 = 0 && (year % 100 ≠ 0 || year % 400 = 0)

/-- The lengths of the months of a year. -/
def monthLengths (leap : Bool) : List Nat :=
  [31, if leap then 29 else 28, 31, 30, 31, 30, 31, 31, 30, 31, 30, 31]

/-- The number of days from 0001-01-01 to the first day of a year. -/
def daysBeforeYear (year : Int) : Int :=
  365 * (year - 1) + (year - 1) / 4 - (year - 1) / 100 + (year - 1) / 400

/-- The number of days from 0001-01-01 to 1970-01-01. -/
def epochDay : Int := 719162

/-- The month and the day of the month at a place in the year that counts from zero; `month` is the
number of the first of the given months. -/
def monthDay : List Nat → Nat → Nat → Nat × Nat
  | length :: lengths, month, place =>
    if place < length then (month, place + 1) else monthDay lengths (month + 1) (place - length)
  | [], month, place => (month, place + 1)

/-- The year of a day that counts from 0001-01-01. A quotient by the mean year is at most one
off. -/
def yearOf (day : Int) : Int :=
  let guess := day * 400 / 146097 + 1
  if day < daysBeforeYear guess then guess - 1
  else if daysBeforeYear (guess + 1) ≤ day then guess + 1
  else guess

end Calendar

namespace Date

open Calendar

/-- Whether the month and the day exist in the year. -/
def isValid (date : Date) : Bool :=
  1 ≤ date.month && date.month ≤ 12 && 1 ≤ date.day
    && date.day ≤ (monthLengths (isLeapYear date.year)).getD (date.month - 1) 0

/-- The place in the year, counting from one. -/
def dayOfYear (date : Date) : Nat :=
  ((monthLengths (isLeapYear date.year)).take (date.month - 1)).foldr (· + ·) 0 + date.day

/-- The number of days from 1970-01-01. -/
def dayNumber (date : Date) : Int :=
  daysBeforeYear date.year - epochDay + date.dayOfYear - 1

/-- The day that is so many days from 1970-01-01. -/
def ofDayNumber (number : Int) : Date :=
  let day := number + epochDay
  let year := yearOf day
  match monthDay (monthLengths (isLeapYear year)) 1 (day - daysBeforeYear year).toNat with
  | (month, dayOfMonth) => ⟨year, month, dayOfMonth⟩

/-- The day of the week, Sunday being zero. -/
def weekday (date : Date) : Nat :=
  ((date.dayNumber + 4) % 7).toNat

end Date

end Formula
