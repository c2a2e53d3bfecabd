import TagTimeline.Time.Calendar

/-!
# Timestamps

A point in time as a clock shows it: a date and a time of day to the nanosecond, and how far the
clock is ahead of UTC, in whole minutes. The second before midnight may be followed by a leap
second, which is counted as the same second with a billion nanoseconds more.

## Main results

* `Timestamp.ofParts?_eq_some` — a timestamp is made exactly of parts that name one.
-/

namespace TagTimeline.Time

/-- The first and the last year that a timestamp can show. -/
def firstYear : Int := -262143

/-- The last year that a timestamp can show. -/
def lastYear : Int := 262142

/-- The parts of a date and time as a clock shows them. -/
structure ClockReading where
  year : Int
  month : Nat
  day : Nat
  hour : Nat
  minute : Nat
  second : Nat
  nanosecond : Nat
  /-- How many minutes the clock is ahead of UTC. -/
  offsetMinutes : Int
  deriving DecidableEq, Repr

namespace ClockReading

/-- Seconds since 1970 in UTC, a leap second counting as the second before it. -/
def unixSeconds (r : ClockReading) : Int :=
  dayNumber r.year r.month r.day * 86400 + r.hour * 3600 + r.minute * 60 + r.second
    - r.offsetMinutes * 60

/-- **Whether the parts name a point in time**: the date exists, the time of day does, only the
last second of a minute has a leap second, the offset is less than a day, and the instant lies
within the years that can be shown. -/
def IsValid (r : ClockReading) : Prop :=
  firstYear ≤ r.year ∧ r.year ≤ lastYear ∧ 1 ≤ r.day ∧ r.day ≤ daysInMonth r.year r.month ∧
    r.hour ≤ 23 ∧ r.minute ≤ 59 ∧ r.second ≤ 59 ∧ r.nanosecond < 2000000000 ∧
    (1000000000 ≤ r.nanosecond → r.second = 59) ∧
    -1440 < r.offsetMinutes ∧ r.offsetMinutes < 1440 ∧
    dayNumber firstYear 1 1 * 86400 ≤ r.unixSeconds ∧
    r.unixSeconds < (dayNumber lastYear 12 31 + 1) * 86400

instance (r : ClockReading) : Decidable r.IsValid := by
  unfold IsValid; infer_instance

end ClockReading

/-- **A point in time** as a clock with a UTC offset shows it. -/
structure Timestamp where
  reading : ClockReading
  valid : reading.IsValid
  deriving DecidableEq

namespace Timestamp

/-- The timestamp with the given parts, if they name one. -/
def ofParts? (r : ClockReading) : Option Timestamp :=
  if h : r.IsValid then some ⟨r, h⟩ else none

/-- Parts make a timestamp exactly if they name one, and the timestamp then shows them. -/
theorem ofParts?_eq_some {r : ClockReading} {t : Timestamp} :
    ofParts? r = some t ↔ t.reading = r := by
  unfold ofParts?
  constructor
  · intro h
    split at h
    · exact (congrArg reading (Option.some.inj h)).symm
    · exact absurd h (by simp)
  · rintro rfl
    simp [t.valid]

/-- 1 January 1970 at midnight, UTC. -/
def epoch : Timestamp := ⟨⟨1970, 1, 1, 0, 0, 0, 0, 0⟩, by decide⟩

instance : Inhabited Timestamp := ⟨epoch⟩

/-- Seconds since 1970, rounded toward the past. -/
def unixSeconds (t : Timestamp) : Int := t.reading.unixSeconds

/-- Milliseconds since 1970, rounded toward the past. -/
def unixMillis (t : Timestamp) : Int :=
  t.unixSeconds * 1000 + (t.reading.nanosecond / 1000000 : Nat)

/-- Nanoseconds since 1970. -/
def unixNanos (t : Timestamp) : Int := t.unixSeconds * 1000000000 + t.reading.nanosecond

/-- The UTC timestamp so many nanoseconds after 1970, if it lies in the years that can be shown. -/
def ofUnixNanos? (nanos : Int) : Option Timestamp :=
  let seconds := nanos / 1000000000
  let (year, month, day) := ofDayNumber (seconds / 86400)
  let second := (seconds % 86400).toNat
  ofParts? ⟨year, month, day, second / 3600, second / 60 % 60, second % 60,
    (nanos % 1000000000).toNat, 0⟩

/-- The UTC timestamp so many milliseconds after 1970, if it lies in the years that can be shown. -/
def ofUnixMillis? (millis : Int) : Option Timestamp := ofUnixNanos? (millis * 1000000)

end Timestamp

end TagTimeline.Time
