import ObjectDocument.Calendar.Pattern

/-!
# Default forms of dates

Without a format, dates and date-times are written in the forms of ISO 8601 and instants in the form
of RFC 3339, with as many digits of the fraction as are needed: none, three, six or nine.
-/

namespace ObjectDocument.Calendar

open Text

/-- The items of a date: year, month and day. -/
def dateItems : List Item :=
  [.component .year, .literal '-', .component (.month true), .literal '-', .component (.day true)]

/-- The items of a time of day, down to the second. -/
def timeItems : List Item :=
  [.component (.hour true), .literal ':', .component (.minute true), .literal ':',
    .component (.second true)]

/-- The items of a date-time, down to the second. -/
def dateTimeItems : List Item :=
  dateItems ++ .literal 'T' :: timeItems

/-- The fraction of a time with its dot, in as few groups of three digits as it needs. -/
def printShortFraction (t : Time) : List Char :=
  let nanos := t.nanos % nanosPerSecond
  if nanos = 0 then []
  else if nanos % 1000000 = 0 then '.' :: Pattern.printFraction 3 t
  else if nanos % 1000 = 0 then '.' :: Pattern.printFraction 6 t
  else '.' :: Pattern.printFraction 9 t

def printDate (d : Date) : String :=
  String.ofList (dateItems.flatMap (Pattern.printItem (.atMidnight d)))

def printDateTime (t : DateTime) : String :=
  String.ofList (dateTimeItems.flatMap (Pattern.printItem t) ++ printShortFraction t.time)

def printInstant (t : DateTime) : String :=
  String.ofList (dateTimeItems.flatMap (Pattern.printItem t) ++ printShortFraction t.time ++ ['Z'])

def readDate? (s : String) : Option Date :=
  match Pattern.readItems dateItems {} s.toList with
  | some (f, []) => f.toDate?
  | _ => none

/-- Read an optional fraction of any length. -/
def readOptionalFraction (f : Fields) : List Char → Option (Fields × List Char)
  | '.' :: cs => do
    let (n, rest) ← readAnyFraction cs
    return (← f.setNanos n, rest)
  | cs => some (f, cs)

def readDateTime? (s : String) : Option DateTime := do
  let (f, rest) ← Pattern.readItems dateTimeItems {} s.toList
  let (f, rest) ← readOptionalFraction f rest
  if rest.isEmpty then f.toLocal? else none

/-- Skip the letter between date and time, or the blank that may stand for it. -/
def readDivider : List Char → Option (List Char)
  | c :: cs => if c = 'T' ∨ c = 't' ∨ c = ' ' then some cs else none
  | [] => none

/-- The largest offset in the form of RFC 3339, 23 hours and 59 minutes. -/
def maxInstantOffset : Int := (23 * 60 + 59) * 60

/-- Read an instant in its default form: every number has its full width, and the offset is the
letter Z or hours and minutes with a colon. -/
def readInstant? (s : String) : Option DateTime := do
  let (year, cs) ← readFixed 4 s.toList
  let f ← Fields.setYear {} year
  let cs ← readChar '-' cs
  let (month, cs) ← readFixed 2 cs
  let f ← f.setMonth month
  let cs ← readChar '-' cs
  let (day, cs) ← readFixed 2 cs
  let f ← f.setDay day
  let cs ← readDivider cs
  let (hour, cs) ← readFixed 2 cs
  let f ← f.setHour hour
  let cs ← readChar ':' cs
  let (minute, cs) ← readFixed 2 cs
  let f ← f.setMinute minute
  let cs ← readChar ':' cs
  let (second, cs) ← readFixed 2 cs
  let f ← f.setSecond second
  let (f, cs) ← readOptionalFraction f cs
  let (offset, cs) ← readOffset (readChar ':') true cs
  let f ← f.setOffset offset
  if cs.isEmpty ∧ -maxInstantOffset ≤ offset ∧ offset ≤ maxInstantOffset then f.toUtc? else none

end ObjectDocument.Calendar
