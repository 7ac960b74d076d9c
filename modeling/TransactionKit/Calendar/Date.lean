/-!
Dates of the proleptic Gregorian calendar. Year zero is a leap year and negative years lie before
it; the years of a date run from -262143 to 262142. Besides the three numbers of a date the
module derives its day of the year, its day count from 1970-01-01, its weekday, and the week of
the year in the three usual countings.
-/

namespace TransactionKit

namespace Calendar

/-- Whether a year has a twenty-ninth of February. -/
def isLeapYear (year : Int) : Bool :=
  year % 4 == 0 && (year % 100 != 0 || year % 400 == 0)

/-- The number of days of a month; of no use outside 1 to 12. -/
def daysInMonth (year : Int) (month : Nat) : Nat :=
  if month = 2 then (if isLeapYear year then 29 else 28)
  else if month = 4 ∨ month = 6 ∨ month = 9 ∨ month = 11 then 30
  else 31

def daysInYear (year : Int) : Nat :=
  if isLeapYear year then 366 else 365

/-- The least year of a date. -/
def minYear : Int := -262143

/-- The greatest year of a date. -/
def maxYear : Int := 262142

/-- Whether three numbers name a day of the calendar. -/
def IsDay (year : Int) (month day : Nat) : Prop :=
  minYear ≤ year ∧ year ≤ maxYear ∧ 1 ≤ month ∧ month ≤ 12 ∧ 1 ≤ day ∧ day ≤ daysInMonth year month

instance (year : Int) (month day : Nat) : Decidable (IsDay year month day) := by
  unfold IsDay
  infer_instance

end Calendar

/-- A day of the calendar. -/
structure Date where
  year : Int
  month : Nat
  day : Nat
  isDay : Calendar.IsDay year month day
deriving DecidableEq, Repr

namespace Date

open Calendar

instance : Inhabited Date := ⟨⟨1970, 1, 1, by decide⟩⟩

/-- The date with the given numbers, if they name a day. -/
def of? (year : Int) (month day : Nat) : Option Date :=
  if h : IsDay year month day then some ⟨year, month, day, h⟩ else none

def daysBeforeMonth (year : Int) (month : Nat) : Nat :=
  (List.range (month - 1)).foldl (fun days m => days + daysInMonth year (m + 1)) 0

/-- The day of the year, from 1. -/
def ordinal (d : Date) : Nat :=
  daysBeforeMonth d.year d.month + d.day

/-- The days from 1970-01-01 to the first of January of a year. -/
def daysToYear (year : Int) : Int :=
  let y := year - 1
  365 * y + y / 4 - y / 100 + y / 400 - 719162

/-- The days from 1970-01-01, negative before it. -/
def dayNumber (d : Date) : Int :=
  daysToYear d.year + d.ordinal - 1

/-- The weekday, from Monday as 0 to Sunday as 6. -/
def weekday (d : Date) : Nat :=
  ((d.dayNumber + 3) % 7).toNat

/-- The week of the year when weeks start on the given weekday; the days before the first such
weekday are in week 0. -/
def weekFrom (d : Date) (start : Nat) : Nat :=
  (d.ordinal + 6 - (d.weekday + 7 - start) % 7) / 7

/-- The number of weeks of a week-numbering year. It has a fifty-third week when the year starts
on a Thursday, or on a Wednesday and is a leap year. -/
def weeksInYear (year : Int) : Nat :=
  let first := ((daysToYear year + 3) % 7).toNat
  if first = 3 ∨ (first = 2 ∧ isLeapYear year) then 53 else 52

/-- The week-numbering year and its week. Weeks run from Monday to Sunday and belong to the year
that holds their Thursday. -/
def weekYear (d : Date) : Int × Nat :=
  let week := (d.ordinal + 9 - d.weekday) / 7
  if week = 0 then (d.year - 1, weeksInYear (d.year - 1))
  else if weeksInYear d.year < week then (d.year + 1, 1)
  else (d.year, week)

/-- The day number of the first day of the calendar. -/
def minDayNumber : Int :=
  daysToYear minYear

/-- The day number of the last day of the calendar. -/
def maxDayNumber : Int :=
  daysToYear (maxYear + 1) - 1

example : (Date.mk 2021 1 3 (by decide)).weekYear = (2020, 53) := by decide +kernel
example : (Date.mk (-5) 12 31 (by decide)).ordinal = 365 := by decide +kernel

end Date

end TransactionKit
