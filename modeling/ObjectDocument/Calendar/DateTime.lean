import ObjectDocument.Calendar.Date

/-!
# Times and date-times

A time of day has nanosecond precision. A leap second is a second 59 with a billion nanoseconds or
more. A date-time is used in two ways: on its own, without an offset, and for an instant, as the
date-time of the instant in UTC.
-/

namespace ObjectDocument

/-- The nanoseconds of a second. -/
def nanosPerSecond : Nat := 1000000000

/-- A time of day. -/
structure Time where
  hour : Nat
  minute : Nat
  second : Nat
  nanos : Nat
  hour_range : hour < 24
  minute_range : minute < 60
  second_range : second < 60
  nanos_range : nanos < nanosPerSecond ∨ (second = 59 ∧ nanos < 2 * nanosPerSecond)
deriving DecidableEq, Repr

namespace Time

/-- The time with the given parts, if there is one. -/
def of? (hour minute second nanos : Nat) : Option Time :=
  if h : hour < 24 ∧ minute < 60 ∧ second < 60 ∧
      (nanos < nanosPerSecond ∨ (second = 59 ∧ nanos < 2 * nanosPerSecond)) then
    some ⟨hour, minute, second, nanos, h.1, h.2.1, h.2.2.1, h.2.2.2⟩
  else none

def midnight : Time where
  hour := 0
  minute := 0
  second := 0
  nanos := 0
  hour_range := by decide
  minute_range := by decide
  second_range := by decide
  nanos_range := .inl (by decide)

/-- The whole seconds since midnight. -/
def secondOfDay (t : Time) : Nat :=
  (t.hour * 60 + t.minute) * 60 + t.second

/-- Whether the time lies in a leap second. -/
def isLeapSecond (t : Time) : Bool :=
  nanosPerSecond ≤ t.nanos

end Time

structure DateTime where
  date : Date
  time : Time
deriving DecidableEq, Repr

namespace DateTime

def atMidnight (d : Date) : DateTime :=
  ⟨d, .midnight⟩

def secondsPerDay : Int := 86400

/-- The whole seconds since 1970-01-01, midnight. A leap second counts as the second before it. -/
def epochSeconds (t : DateTime) : Int :=
  t.date.dayNumber * secondsPerDay + t.time.secondOfDay

/-- The whole milliseconds since 1970-01-01, midnight. -/
def epochMillis (t : DateTime) : Int :=
  t.epochSeconds * 1000 + (t.time.nanos / 1000000 : Nat)

/-- The date-time a number of seconds and nanoseconds after 1970-01-01, midnight, if it is in
range. -/
def ofEpoch? (seconds : Int) (nanos : Nat) : Option DateTime := do
  let date ← Date.ofDayNumber? (seconds / secondsPerDay)
  let rest := (seconds % secondsPerDay).toNat
  let time ← Time.of? (rest / 3600) (rest / 60 % 60) (rest % 60) nanos
  return ⟨date, time⟩

/-- The date-time a number of milliseconds after 1970-01-01, midnight, if it is in range. -/
def ofEpochMillis? (millis : Int) : Option DateTime :=
  ofEpoch? (millis / 1000) ((millis % 1000).toNat * 1000000)

/-- The date-time a number of seconds earlier, if it is in range. -/
def minusSeconds? (t : DateTime) (seconds : Int) : Option DateTime :=
  ofEpoch? (t.epochSeconds - seconds) t.time.nanos

end DateTime

end ObjectDocument
