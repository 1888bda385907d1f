/-!
# Instants

An instant is a date and a time of day in universal time, to the nanosecond. Second 60 is a leap
second; it may end any minute. Dates follow the Gregorian calendar in both directions.
-/

namespace RecordSchema

/-- The year has a 29th of February. -/
def isLeapYear (year : Int) : Bool :=
  year % 4 == 0 && (year % 100 != 0 || year % 400 == 0)

/-- The number of days of a month, and zero for a number that is no month. -/
def daysInMonth (year : Int) : Nat → Nat
  | 1 | 3 | 5 | 7 | 8 | 10 | 12 => 31
  | 4 | 6 | 9 | 11 => 30
  | 2 => if isLeapYear year then 29 else 28
  | _ => 0

/-- A day of the calendar. -/
structure CalendarDay where
  year : Int
  month : Nat
  day : Nat
deriving DecidableEq

namespace CalendarDay

/-- The month exists and has this day. -/
def Exists (d : CalendarDay) : Prop :=
  1 ≤ d.day ∧ d.day ≤ daysInMonth d.year d.month

instance (d : CalendarDay) : Decidable d.Exists :=
  inferInstanceAs (Decidable (_ ∧ _))

/-- The day after. -/
def next (d : CalendarDay) : CalendarDay :=
  if d.day < daysInMonth d.year d.month then { d with day := d.day + 1 }
  else if d.month < 12 then ⟨d.year, d.month + 1, 1⟩
  else ⟨d.year + 1, 1, 1⟩

/-- The day before. -/
def previous (d : CalendarDay) : CalendarDay :=
  if 1 < d.day then { d with day := d.day - 1 }
  else if 1 < d.month then ⟨d.year, d.month - 1, daysInMonth d.year (d.month - 1)⟩
  else ⟨d.year - 1, 12, 31⟩

/-- The number of days since the first of January 1970. Years are counted from March, so that the
leap day is the last of its year. -/
def sinceEpoch (d : CalendarDay) : Int :=
  let year := if d.month ≤ 2 then d.year - 1 else d.year
  let era := year / 400
  let yearOfEra := year % 400
  let dayOfYear : Int := (153 * ((d.month + 9) % 12) + 2) / 5 + d.day - 1
  let dayOfEra := yearOfEra * 365 + yearOfEra / 4 - yearOfEra / 100 + dayOfYear
  era * 146097 + dayOfEra - 719468

example : sinceEpoch ⟨1970, 1, 1⟩ = 0 ∧ sinceEpoch ⟨2000, 3, 1⟩ = 11017 := by decide

end CalendarDay

/-- A time of day: hour, minute, second and nanosecond. -/
structure TimeOfDay where
  hour : Nat
  minute : Nat
  second : Nat
  nano : Nat
deriving DecidableEq

/-- The hour and minute exist, the second may be a leap second, and the rest is below a second. -/
def TimeOfDay.Exists (t : TimeOfDay) : Prop :=
  t.hour < 24 ∧ t.minute < 60 ∧ t.second ≤ 60 ∧ t.nano < 1000000000

instance (t : TimeOfDay) : Decidable t.Exists :=
  inferInstanceAs (Decidable (_ ∧ _ ∧ _ ∧ _))

/-- A point in time, by its day and time of day in universal time. -/
structure Instant where
  day : CalendarDay
  time : TimeOfDay
  day_exists : day.Exists
  time_exists : time.Exists
deriving DecidableEq

namespace Instant

/-- The instant of this day and time, if both exist. -/
def of? (day : CalendarDay) (time : TimeOfDay) : Option Instant :=
  if h : day.Exists ∧ time.Exists then some ⟨day, time, h.1, h.2⟩ else none

/-- The instant at which a clock that is `offset` minutes ahead shows this day and time. The offset
is less than a day. -/
def ofLocal? (day : CalendarDay) (time : TimeOfDay) (offset : Int) : Option Instant :=
  if day.Exists ∧ time.Exists then
    let minutes : Int := 60 * time.hour + time.minute - offset
    -- Less than a day away, so the day is this one or one of its neighbours.
    let day := if minutes < 0 then day.previous else if 1440 ≤ minutes then day.next else day
    let minuteOfDay := (minutes % 1440).toNat
    of? day { time with hour := minuteOfDay / 60, minute := minuteOfDay % 60 }
  else none

/-- The milliseconds since 1970, rounded down. A leap second counts as the second before it and more
than a thousand milliseconds. -/
def unixMillis (i : Instant) : Int :=
  let second := min i.time.second 59
  let extra := if i.time.second = 60 then 1000 else 0
  (i.day.sinceEpoch * 86400 + i.time.hour * 3600 + i.time.minute * 60 + second) * 1000
    + extra + i.time.nano / 1000000

end Instant

end RecordSchema
