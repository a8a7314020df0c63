import ObjectDocument.Calendar.DateTime

/-!
# Fields of a text

Reading a date leaves a record of the fields that the text gives. A field may be given more than
once if the values agree. A date is resolved from a year with month and day, or with the day of the
year, and has to agree with every other field; a time needs an hour and a minute.
-/

namespace ObjectDocument.Calendar

/-- What a text says about a date and time. -/
structure Fields where
  year : Option Int := none
  /-- The last two digits of the year. -/
  yearOfCentury : Option Nat := none
  month : Option Nat := none
  day : Option Nat := none
  ordinal : Option Nat := none
  weekday : Option Weekday := none
  /-- Whether the time is after noon. -/
  afternoon : Option Bool := none
  /-- The hour of the half day, from 0. -/
  hourOfHalf : Option Nat := none
  minute : Option Nat := none
  second : Option Nat := none
  nanos : Option Nat := none
  /-- Seconds east of UTC. -/
  offset : Option Int := none
deriving DecidableEq, Repr

/-- Give a field a value, which has to agree with the value it already has. -/
def agree {α : Type} [DecidableEq α] (old : Option α) (value : α) : Option (Option α) :=
  match old with
  | none => some (some value)
  | some known => if known = value then some (some value) else none

/-- A number within bounds. -/
def within? (low high n : Nat) : Option Nat :=
  if low ≤ n ∧ n ≤ high then some n else none

namespace Fields

/-- The years that a text can name. -/
def yearLimit : Int := 2147483648

def setYear (f : Fields) (n : Int) : Option Fields := do
  if -yearLimit ≤ n ∧ n < yearLimit then
    return { f with year := ← agree f.year n }
  else none

def setYearOfCentury (f : Fields) (n : Nat) : Option Fields := do
  return { f with yearOfCentury := ← agree f.yearOfCentury (← within? 0 99 n) }

def setMonth (f : Fields) (n : Nat) : Option Fields := do
  return { f with month := ← agree f.month (← within? 1 12 n) }

def setDay (f : Fields) (n : Nat) : Option Fields := do
  return { f with day := ← agree f.day (← within? 1 31 n) }

/-- Give the day of the year. -/
def setOrdinal (f : Fields) (n : Nat) : Option Fields := do
  return { f with ordinal := ← agree f.ordinal (← within? 1 366 n) }

def setWeekday (f : Fields) (w : Weekday) : Option Fields := do
  return { f with weekday := ← agree f.weekday w }

def setAfternoon (f : Fields) (b : Bool) : Option Fields := do
  return { f with afternoon := ← agree f.afternoon b }

/-- Give the hour of the half day, 12 standing for the first. -/
def setHour12 (f : Fields) (n : Nat) : Option Fields := do
  return { f with hourOfHalf := ← agree f.hourOfHalf ((← within? 1 12 n) % 12) }

def setHour (f : Fields) (n : Nat) : Option Fields := do
  let n ← within? 0 23 n
  let f ← f.setAfternoon (12 ≤ n)
  return { f with hourOfHalf := ← agree f.hourOfHalf (n % 12) }

def setMinute (f : Fields) (n : Nat) : Option Fields := do
  return { f with minute := ← agree f.minute (← within? 0 59 n) }

/-- Give the second; 60 is a leap second. -/
def setSecond (f : Fields) (n : Nat) : Option Fields := do
  return { f with second := ← agree f.second (← within? 0 60 n) }

def setNanos (f : Fields) (n : Nat) : Option Fields := do
  return { f with nanos := ← agree f.nanos (← within? 0 (nanosPerSecond - 1) n) }

def setOffset (f : Fields) (n : Int) : Option Fields := do
  return { f with offset := ← agree f.offset n }

/-- The year of the fields: two digits that stand alone name a year from 1970 to 2069, and two digits
beside a full year have to be its last, which then cannot be negative. -/
def resolveYear (f : Fields) : Option Int :=
  match f.year, f.yearOfCentury with
  | some y, none => some y
  | some y, some r => if 0 ≤ y ∧ y % 100 = r then some y else none
  | none, some r => some (if r < 70 then 2000 + r else 1900 + r)
  | none, none => none

/-- Whether a field that is given has the value. -/
def permits {α : Type} [DecidableEq α] (given : Option α) (value : α) : Bool :=
  match given with
  | none => true
  | some known => known = value

def toDate? (f : Fields) : Option Date := do
  let year ← f.resolveYear
  match f.month, f.day, f.ordinal with
  | some month, some day, _ =>
    let date ← Date.ofYmd? year month day
    if permits f.weekday date.weekday && permits f.ordinal date.ordinal then some date else none
  | _, _, some ordinal =>
    let date ← Date.ofOrdinal? year ordinal
    if permits f.weekday date.weekday && permits f.month date.month && permits f.day date.day then
      some date
    else none
  | _, _, none => none

/-- The time of the fields. A missing second is zero, but a fraction needs a second. -/
def toTime? (f : Fields) : Option Time := do
  let afternoon ← f.afternoon
  let hour ← f.hourOfHalf
  let minute ← f.minute
  let hour := if afternoon then hour + 12 else hour
  match f.second, f.nanos with
  | none, none => Time.of? hour minute 0 0
  | none, some _ => none
  | some second, nanos =>
    let nanos := nanos.getD 0
    if second = 60 then Time.of? hour minute 59 (nanosPerSecond + nanos)
    else Time.of? hour minute second nanos

def toLocal? (f : Fields) : Option DateTime := do
  let date ← f.toDate?
  let time ← f.toTime?
  return ⟨date, time⟩

/-- The offsets that can be applied lie less than a day from UTC. -/
def offsetLimit : Int := 86400

/-- The UTC date-time of fields with an offset. -/
def toUtc? (f : Fields) : Option DateTime := do
  let offset ← f.offset
  let t ← f.toLocal?
  if -offsetLimit < offset ∧ offset < offsetLimit then t.minusSeconds? offset else none

/-- The local date-time of the fields, or the start of their date if they have no time. -/
def toLocalOrMidnight? (f : Fields) : Option DateTime :=
  match f.toLocal? with
  | some t => some t
  | none => f.toDate?.map .atMidnight

/-- The date-time of the fields: shifted to UTC if they have an offset that can be applied, and else
as it stands. -/
def toDateTime? (f : Fields) : Option DateTime :=
  match f.toUtc? with
  | some t => some t
  | none => f.toLocalOrMidnight?

end Fields

end ObjectDocument.Calendar
