/-!
# Dates

Dates of the Gregorian calendar, extended to both sides, in the years −262143 to 262142. Beside
year, month and day a date has an ordinal in its year, a weekday, and a week and year of the ISO
week calendar. Weekdays count from Monday as 0.
-/

namespace FormTree

def isLeapYear (year : Int) : Bool := year % 4 = 0 ∧ (year % 100 ≠ 0 ∨ year % 400 = 0)

def daysInYear (year : Int) : Nat := if isLeapYear year then 366 else 365

def monthLengths (year : Int) : List Nat :=
  [31, if isLeapYear year then 29 else 28, 31, 30, 31, 30, 31, 31, 30, 31, 30, 31]

/-- The length of a month counted from 1; a month that does not exist has no days. -/
def daysInMonth (year : Int) (month : Nat) : Nat :=
  if month = 0 then 0 else ((monthLengths year)[month - 1]?).getD 0

/-- The first and the last year of the calendar. -/
def firstYear : Int := -262143

def lastYear : Int := 262142

structure Date where
  year : Int
  month : Nat
  day : Nat
  valid : firstYear ≤ year ∧ year ≤ lastYear ∧ 1 ≤ day ∧ day ≤ daysInMonth year month
deriving DecidableEq

namespace Date

def ofParts? (year : Int) (month day : Nat) : Option Date :=
  if h : firstYear ≤ year ∧ year ≤ lastYear ∧ 1 ≤ day ∧ day ≤ daysInMonth year month then
    some ⟨year, month, day, h⟩
  else none

/-- The month and the day of a day that comes `ordinal` days into the given months. -/
def monthAndDay? : List Nat → Nat → Nat → Option (Nat × Nat)
  | [], _, _ => none
  | length :: rest, month, ordinal =>
    if ordinal ≤ length then some (month, ordinal)
    else monthAndDay? rest (month + 1) (ordinal - length)

/-- The date with the given ordinal in a year, counted from 1. -/
def ofOrdinal? (year : Int) (ordinal : Nat) : Option Date :=
  (monthAndDay? (monthLengths year) 1 ordinal).bind fun (month, day) => ofParts? year month day

/-- The number of the day in its year, from 1. -/
def ordinal (date : Date) : Nat :=
  ((monthLengths date.year).take (date.month - 1)).foldl (· + ·) date.day

/-- The number of days before a year, counted from the first of January of year 1. -/
def daysBeforeYear (year : Int) : Int :=
  let y := year - 1
  365 * y + y / 4 - y / 100 + y / 400

/-- The weekday of a day of a year; the first of January of year 1 was a Monday. -/
def weekdayOf (year : Int) (ordinal : Int) : Nat :=
  ((daysBeforeYear year + ordinal - 1) % 7).toNat

def weekday (date : Date) : Nat := weekdayOf date.year date.ordinal

def daysFromSunday (date : Date) : Nat := (date.weekday + 1) % 7

def quarter (date : Date) : Nat := (date.month - 1) / 3 + 1

/-- The number of Sundays up to the date, within its year. -/
def weekFromSunday (date : Date) : Nat := (date.ordinal + 6 - date.daysFromSunday) / 7

/-- The number of Mondays up to the date, within its year. -/
def weekFromMonday (date : Date) : Nat := (date.ordinal + 6 - date.weekday) / 7

/-- A year has 53 ISO weeks if it has 53 Thursdays. -/
def isoWeeksIn (year : Int) : Nat :=
  let first := weekdayOf year 1
  if first = 3 ∨ (first = 2 ∧ isLeapYear year) then 53 else 52

/-- The year and the week of the ISO week calendar. A week belongs to the year of its Thursday. -/
def isoWeek (date : Date) : Int × Nat :=
  let week := (date.ordinal + 9 - date.weekday) / 7
  if week = 0 then (date.year - 1, isoWeeksIn (date.year - 1))
  else if isoWeeksIn date.year < week then (date.year + 1, 1)
  else (date.year, week)

/-- The date `ordinal` days into a year, where the ordinal may reach into a neighbouring year. -/
def ofOffset? (year : Int) (ordinal : Int) : Option Date :=
  if ordinal < 1 then ofOrdinal? (year - 1) (ordinal + daysInYear (year - 1)).toNat
  else if daysInYear year < ordinal then ofOrdinal? (year + 1) (ordinal - daysInYear year).toNat
  else ofOrdinal? year ordinal.toNat

/-- The date of a weekday in an ISO week. Week 1 is the one with the fourth of January. -/
def ofIsoWeek? (year : Int) (week weekday : Nat) : Option Date :=
  if 1 ≤ week ∧ week ≤ isoWeeksIn year ∧ weekday < 7 then
    ofOffset? year (4 - (weekdayOf year 4 : Int) + 7 * ((week : Int) - 1) + weekday)
  else none

/-- The date of a weekday in a week counted from the first day of the year that is `weekStart`; the
days before it are week 0. -/
def ofWeek? (year : Int) (week weekday weekStart : Nat) : Option Date :=
  let firstStart : Int := 1 + ((weekStart + 7 - weekdayOf year 1) % 7 : Nat)
  let ordinal := firstStart + 7 * ((week : Int) - 1) + ((weekday + 7 - weekStart) % 7 : Nat)
  if ordinal < 1 then none else ofOrdinal? year ordinal.toNat

/-- The date on which patterns are tried out. -/
def sample : Date := ⟨1970, 1, 1, by decide⟩

example : sample.weekday = 3 ∧ sample.isoWeek = (1970, 1) := by decide

end Date

end FormTree
