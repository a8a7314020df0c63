/-!
# Dates

Dates of the proleptic Gregorian calendar, from the year -262143 to the year 262142. A date and its
day number, the count of days since 1970-01-01, determine each other; both directions go through
the day of the year.
-/

namespace ObjectDocument

namespace Calendar

/-- The first year with dates. -/
def minYear : Int := -262143

/-- The last year with dates. -/
def maxYear : Int := 262142

/-- Whether a year has a leap day. -/
def isLeapYear (year : Int) : Bool :=
  year % 4 = 0 ∧ (year % 100 ≠ 0 ∨ year % 400 = 0)

def monthLengths (leap : Bool) : List Nat :=
  [31, if leap then 29 else 28, 31, 30, 31, 30, 31, 31, 30, 31, 30, 31]

/-- The days of a month; no days if there is no such month. -/
def daysInMonth (year : Int) (month : Nat) : Nat :=
  if month = 0 then 0 else ((monthLengths (isLeapYear year))[month - 1]?).getD 0

def daysInYear (year : Int) : Nat :=
  if isLeapYear year then 366 else 365

/-- The days of months together, from their lengths. -/
def totalDays : List Nat → Nat
  | [] => 0
  | n :: ns => n + totalDays ns

def daysBeforeMonth (year : Int) (month : Nat) : Nat :=
  totalDays ((monthLengths (isLeapYear year)).take (month - 1))

/-- The days from 0001-01-01 to the first day of a year. -/
def daysBeforeYear (year : Int) : Int :=
  365 * (year - 1) + (year - 1) / 4 - (year - 1) / 100 + (year - 1) / 400

/-- The days from 0001-01-01 to 1970-01-01. -/
def epochDay : Int := 719162

/-- A day of the week. -/
inductive Weekday where
  | monday
  | tuesday
  | wednesday
  | thursday
  | friday
  | saturday
  | sunday
deriving DecidableEq, Repr

def weekdays : List Weekday :=
  [.monday, .tuesday, .wednesday, .thursday, .friday, .saturday, .sunday]

end Calendar

open Calendar

/-- A date of the calendar. -/
structure Date where
  year : Int
  month : Nat
  day : Nat
  year_range : minYear ≤ year ∧ year ≤ maxYear
  month_range : 1 ≤ month ∧ month ≤ 12
  day_range : 1 ≤ day ∧ day ≤ daysInMonth year month
deriving DecidableEq, Repr

namespace Date

/-- The date of a year, month and day, if it exists. -/
def ofYmd? (year : Int) (month day : Nat) : Option Date :=
  if h : (minYear ≤ year ∧ year ≤ maxYear) ∧ (1 ≤ month ∧ month ≤ 12) ∧
      (1 ≤ day ∧ day ≤ daysInMonth year month) then
    some ⟨year, month, day, h.1, h.2.1, h.2.2⟩
  else none

/-- The day of the year, from 1. -/
def ordinal (d : Date) : Nat :=
  daysBeforeMonth d.year d.month + d.day

/-- The month and the day in it at an offset from the first day of a year, given the lengths of the
months from `month` on. -/
def locate : List Nat → (month offset : Nat) → Nat × Nat
  | [], month, offset => (month, offset + 1)
  | n :: ns, month, offset =>
    if offset < n then (month, offset + 1) else locate ns (month + 1) (offset - n)

/-- The date of a year and a day of it, if it exists. -/
def ofOrdinal? (year : Int) (ordinal : Nat) : Option Date :=
  if 1 ≤ ordinal then
    let (month, day) := locate (monthLengths (isLeapYear year)) 1 (ordinal - 1)
    ofYmd? year month day
  else none

/-- The days since 1970-01-01. -/
def dayNumber (d : Date) : Int :=
  daysBeforeYear d.year + (d.ordinal - 1 : Nat) - epochDay

/-- The year that holds a day, counted from 0001-01-01: the mean length of a year gives it up to one
year. -/
def yearOfDay (n : Int) : Int :=
  let guess := n * 400 / 146097 + 1
  if n < daysBeforeYear guess then guess - 1
  else if daysBeforeYear (guess + 1) ≤ n then guess + 1
  else guess

/-- The date of a day number, if it is in range. -/
def ofDayNumber? (n : Int) : Option Date :=
  let day := n + epochDay
  let year := yearOfDay day
  ofOrdinal? year ((day - daysBeforeYear year).toNat + 1)

/-- The day of the week; 1970-01-01 was a Thursday. -/
def weekday (d : Date) : Weekday :=
  (weekdays[((d.dayNumber + 3) % 7).toNat]?).getD .monday

/-- The date 1970-01-01. -/
def epoch : Date where
  year := 1970
  month := 1
  day := 1
  year_range := by decide
  month_range := by decide
  day_range := by decide

end Date

end ObjectDocument
