/-!
# Instants

Points in time, to the nanosecond, and calendar dates of the Gregorian calendar in both directions.
-/

namespace ArtifactPipeline.Time

/-- A point in time. A leap second counts as part of the second before it, with `nano` beyond a
thousand million. -/
structure Instant where
  /-- Seconds since the start of 1970, leap seconds left out. -/
  second : Int
  nano : Nat
  deriving Repr, DecidableEq, Inhabited

namespace Instant

/-- Nanoseconds per second. -/
def giga : Nat := 1000000000

/-- The seconds of a day. -/
def secondsPerDay : Int := 86400

/-- Whether one instant is not later than another. -/
def le (a b : Instant) : Bool :=
  a.second < b.second || (a.second == b.second && a.nano ≤ b.nano)

/-- Whether one instant is earlier than another. -/
def lt (a b : Instant) : Bool := !b.le a

/-- The nanoseconds from `a` to `b`. A leap second that lies between the times of day counts. -/
def nanosUntil (a b : Instant) : Int :=
  let timeA := a.second.fmod secondsPerDay
  let timeB := b.second.fmod secondsPerDay
  let leap : Int :=
    if timeA < timeB then (if a.nano ≥ giga then 1 else 0)
    else if timeB < timeA then (if b.nano ≥ giga then -1 else 0)
    else 0
  (b.second - a.second + leap) * giga + (b.nano - a.nano)

/-- The whole milliseconds from `a` to `b`, rounded toward zero. -/
def millisUntil (a b : Instant) : Int :=
  (a.nanosUntil b).tdiv 1000000

end Instant

/-- A date of the Gregorian calendar. -/
structure Date where
  year : Int
  month : Nat
  day : Nat
  deriving Repr, DecidableEq

namespace Date

/-- Whether a year has a leap day. -/
def isLeapYear (year : Int) : Bool :=
  year % 4 == 0 && (year % 100 != 0 || year % 400 == 0)

/-- The number of days of a month. -/
def daysInMonth (year : Int) (month : Nat) : Nat :=
  if month == 2 then (if isLeapYear year then 29 else 28)
  else if month == 4 || month == 6 || month == 9 || month == 11 then 30
  else 31

/-- Whether the date exists. -/
def isValid (d : Date) : Bool :=
  1 ≤ d.month && d.month ≤ 12 && 1 ≤ d.day && d.day ≤ daysInMonth d.year d.month

/-- Days since the start of 1970. Years are counted from March, so that leap days come last. -/
def toDays (d : Date) : Int :=
  let year := if d.month ≤ 2 then d.year - 1 else d.year
  let era := year.fdiv 400
  let yearOfEra := year - era * 400
  let month : Int := (d.month + 9) % 12
  let dayOfYear := (153 * month + 2) / 5 + d.day - 1
  let dayOfEra := yearOfEra * 365 + yearOfEra / 4 - yearOfEra / 100 + dayOfYear
  era * 146097 + dayOfEra - 719468

/-- The date of a day counted from the start of 1970. -/
def ofDays (days : Int) : Date :=
  let shifted := days + 719468
  let era := shifted.fdiv 146097
  let dayOfEra := shifted - era * 146097
  let yearOfEra := (dayOfEra - dayOfEra / 1460 + dayOfEra / 36524 - dayOfEra / 146096) / 365
  let dayOfYear := dayOfEra - (365 * yearOfEra + yearOfEra / 4 - yearOfEra / 100)
  let month := (5 * dayOfYear + 2) / 153
  let day := dayOfYear - (153 * month + 2) / 5 + 1
  let calendarMonth := if month < 10 then month + 3 else month - 9
  let year := yearOfEra + era * 400
  ⟨if calendarMonth ≤ 2 then year + 1 else year, calendarMonth.toNat, day.toNat⟩

/-- Whether the year of a date belongs to the calendar. -/
def inCalendar (d : Date) : Bool := -262143 ≤ d.year && d.year ≤ 262142

end Date

/-- Whether an instant falls on a day of the calendar. -/
def Instant.inCalendar (t : Instant) : Bool :=
  let first := (Date.mk (-262143) 1 1).toDays
  let last := (Date.mk 262142 12 31).toDays
  let day := t.second.fdiv Instant.secondsPerDay
  first ≤ day && day ≤ last

end ArtifactPipeline.Time
