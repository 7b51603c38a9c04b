/-!
# Dates

The proleptic Gregorian calendar from year one on. `Date.ofDays` turns a count of days since
1 January of year one into a date; `Date.toDays` counts them again. Years come in cycles of
400, 100, 4 and 1 years, and the last of the shorter cycles inside a longer one is the odd one
out, which is what the minima below allow for.
-/

namespace PagedReports.Calendar

/-- A date of the Gregorian calendar. -/
structure Date where
  /-- The year, from one. -/
  year : Nat
  /-- The month, from one to twelve. -/
  month : Nat
  /-- The day of the month, from one. -/
  day : Nat
  deriving DecidableEq, Repr

/-- A year of 366 days. -/
def isLeap (year : Nat) : Bool := year % 4 = 0 && (year % 100 ≠ 0 || year % 400 = 0)

/-- The lengths of the twelve months. -/
def monthLengths (year : Nat) : List Nat :=
  [31, if isLeap year then 29 else 28, 31, 30, 31, 30, 31, 31, 30, 31, 30, 31]

/-- How many days come before 1 January of a year. -/
def daysBeforeYear (year : Nat) : Nat :=
  365 * (year - 1) + (year - 1) / 4 - (year - 1) / 100 + (year - 1) / 400

/-- The month, counted from `month` on, that holds the `day`-th of a run of days, and the day of
that month, both from zero. -/
def findMonth : List Nat → Nat → Nat → Nat × Nat
  | [], month, day => (month, day)
  | length :: rest, month, day =>
    if day < length then (month, day) else findMonth rest (month + 1) (day - length)

/-- The year of a day and the day within that year, from zero. -/
def yearOfDays (days : Nat) : Nat × Nat :=
  let inFourHundred := days % 146097
  let centuries := min 3 (inFourHundred / 36524)
  let inCentury := inFourHundred - 36524 * centuries
  let inFour := inCentury % 1461
  let years := min 3 (inFour / 365)
  (400 * (days / 146097) + 100 * centuries + 4 * (inCentury / 1461) + years + 1,
    inFour - 365 * years)

namespace Date

/-- The date that comes `days` days after 1 January of year one. -/
def ofDays (days : Nat) : Date :=
  let year := (yearOfDays days).1
  let place := findMonth (monthLengths year) 0 (yearOfDays days).2
  ⟨year, place.1 + 1, place.2 + 1⟩

/-- The day of the year, from one. -/
def dayOfYear (d : Date) : Nat :=
  ((monthLengths d.year).take (d.month - 1)).foldr (· + ·) d.day

/-- How many days after 1 January of year one a date comes. -/
def toDays (d : Date) : Nat := daysBeforeYear d.year + d.dayOfYear - 1

/-- The day of the week, from Monday as zero. Year one began on a Monday. -/
def weekday (d : Date) : Nat := d.toDays % 7

/-- The quarter of the year, from one. -/
def quarter (d : Date) : Nat := (d.month - 1) / 3 + 1

/-- The number of the week when weeks begin on the given weekday and days before the first such
day belong to week zero. -/
def weekFrom (d : Date) (firstDay : Nat) : Nat :=
  (d.dayOfYear + 6 - (d.weekday + 7 - firstDay) % 7) / 7

/-- How many weeks of Monday to Sunday have their Thursday in a year. -/
def isoWeeksIn (year : Nat) : Nat :=
  let firstDay := daysBeforeYear year % 7
  if firstDay = 3 || (firstDay = 2 && isLeap year) then 53 else 52

/-- The year and number of the week of Monday to Sunday, which belong to its Thursday. -/
def isoWeek (d : Date) : Nat × Nat :=
  let week := (d.dayOfYear + 9 - d.weekday) / 7
  if week = 0 then (d.year - 1, isoWeeksIn (d.year - 1))
  else if isoWeeksIn d.year < week then (d.year + 1, 1)
  else (d.year, week)

end Date

end PagedReports.Calendar
