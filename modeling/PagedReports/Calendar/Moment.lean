import PagedReports.Calendar.Date

/-!
# Moments

A count of seconds since the start of 1970, in universal time, as a date and a time of day.
-/

namespace PagedReports.Calendar

/-- The days from 1 January of year one to 1 January 1970. -/
def daysBeforeEpoch : Nat := 719162

/-- A second of universal time. -/
structure Moment where
  /-- Seconds since the start of 1970. -/
  epoch : Nat
  deriving DecidableEq, Repr

namespace Moment

/-- The date of a moment. -/
def date (m : Moment) : Date := Date.ofDays (daysBeforeEpoch + m.epoch / 86400)

/-- The hour of the day, from zero. -/
def hour (m : Moment) : Nat := m.epoch % 86400 / 3600

/-- The hour of the half day, from one to twelve. -/
def halfHour (m : Moment) : Nat := if m.hour % 12 = 0 then 12 else m.hour % 12

/-- The minute of the hour. -/
def minute (m : Moment) : Nat := m.epoch % 3600 / 60

/-- The second of the minute. -/
def second (m : Moment) : Nat := m.epoch % 60

/-- The first second after the last year that dates are shown for, 262142. -/
def limit : Nat := 8210266876800

/-- The moment of a signed count of seconds, if it comes after the start of 1970 and within the
years that dates are shown for. -/
def ofSeconds? (seconds : Int64) : Option Moment :=
  if 0 < seconds.toInt ∧ seconds.toInt < limit then some ⟨seconds.toInt.toNat⟩ else none

end Moment

end PagedReports.Calendar
