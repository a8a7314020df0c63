import ObjectDocument.Calendar.Scan

/-!
# Date patterns

A pattern such as `uuuu-MM-dd'T'HH:mm:ss.SSSXXX` describes a text form of dates and times. A run of
one letter is a field, text between single quotes stands for itself, two quotes stand for a quote,
and every other character stands for itself. One compiled pattern serves for printing and reading.
-/

namespace ObjectDocument

namespace Calendar

open Text

/-- A piece of a pattern's text. -/
inductive Token where
  /-- A character that stands for itself. -/
  | char (c : Char)
  /-- A letter, repeated. -/
  | run (letter : Char) (count : Nat)
deriving DecidableEq, Repr

/-- Whether a character is a letter of ASCII, so that it belongs to a field of a pattern. -/
def isPatternLetter (c : Char) : Bool :=
  c.isAlpha

/-- Where the scan of a pattern stands. -/
inductive Mode where
  | plain
  /-- In a run of a letter, with its count so far. -/
  | letters (letter : Char) (count : Nat)
  | quoted
deriving DecidableEq, Repr

/-- The pieces of a pattern, with a mark whether its last quoted section is left open. -/
def tokens : Mode → List Char → List Token × Bool
  | .plain, [] => ([], false)
  | .letters l n, [] => ([.run l n], false)
  | .quoted, [] => ([], true)
  | .quoted, '\'' :: '\'' :: cs =>
    let (ts, isOpen) := tokens .quoted cs
    (.char '\'' :: ts, isOpen)
  | .quoted, c :: cs =>
    if c = '\'' then tokens .plain cs
    else
      let (ts, isOpen) := tokens .quoted cs
      (.char c :: ts, isOpen)
  | .plain, '\'' :: '\'' :: cs =>
    let (ts, isOpen) := tokens .plain cs
    (.char '\'' :: ts, isOpen)
  | .plain, c :: cs =>
    if c = '\'' then tokens .quoted cs
    else if isPatternLetter c then tokens (.letters c 1) cs
    else
      let (ts, isOpen) := tokens .plain cs
      (.char c :: ts, isOpen)
  | .letters l n, '\'' :: '\'' :: cs =>
    let (ts, isOpen) := tokens .plain cs
    (.run l n :: .char '\'' :: ts, isOpen)
  | .letters l n, c :: cs =>
    if c = l then tokens (.letters l (n + 1)) cs
    else if c = '\'' then
      let (ts, isOpen) := tokens .quoted cs
      (.run l n :: ts, isOpen)
    else if isPatternLetter c then
      let (ts, isOpen) := tokens (.letters c 1) cs
      (.run l n :: ts, isOpen)
    else
      let (ts, isOpen) := tokens .plain cs
      (.run l n :: .char c :: ts, isOpen)

structure OffsetStyle where
  /-- Whether a colon stands between hours and minutes. -/
  colon : Bool
  /-- Whether UTC is written as the letter Z. -/
  zulu : Bool
deriving DecidableEq, Repr

/-- What a run of letters stands for. A number that is padded has zeros in front. -/
inductive Component where
  | year
  | yearOfCentury
  | month (padded : Bool)
  | monthName (long : Bool)
  | day (padded : Bool)
  | ordinal
  | weekdayName (long : Bool)
  | hour (padded : Bool)
  | hour12 (padded : Bool)
  | minute (padded : Bool)
  | second (padded : Bool)
  | fraction (digits : Nat)
  | halfDay
  | offset (style : OffsetStyle)
deriving DecidableEq, Repr

/-- The component of a letter repeated `count` times. -/
def Component.ofRun? (letter : Char) (count : Nat) : Option Component :=
  match letter, count with
  | 'y', 2 | 'u', 2 => some .yearOfCentury
  | 'y', _ | 'u', _ => some .year
  | 'M', 1 => some (.month false)
  | 'M', 2 => some (.month true)
  | 'M', 3 => some (.monthName false)
  | 'M', 4 => some (.monthName true)
  | 'd', 1 => some (.day false)
  | 'd', 2 => some (.day true)
  | 'D', 1 | 'D', 2 | 'D', 3 => some .ordinal
  | 'E', 1 | 'E', 2 | 'E', 3 => some (.weekdayName false)
  | 'E', 4 => some (.weekdayName true)
  | 'H', 1 => some (.hour false)
  | 'H', 2 => some (.hour true)
  | 'h', 1 => some (.hour12 false)
  | 'h', 2 => some (.hour12 true)
  | 'm', 1 => some (.minute false)
  | 'm', 2 => some (.minute true)
  | 's', 1 => some (.second false)
  | 's', 2 => some (.second true)
  | 'S', 3 => some (.fraction 3)
  | 'S', 6 => some (.fraction 6)
  | 'S', 9 => some (.fraction 9)
  | 'a', 1 => some .halfDay
  | 'X', 1 | 'X', 2 => some (.offset ⟨false, true⟩)
  | 'X', 3 | 'Z', 5 => some (.offset ⟨true, true⟩)
  | 'x', 1 | 'x', 2 | 'Z', 1 | 'Z', 2 | 'Z', 3 => some (.offset ⟨false, false⟩)
  | 'x', 3 => some (.offset ⟨true, false⟩)
  | _, _ => none

inductive Item where
  | literal (c : Char)
  | component (c : Component)
  /-- A fraction together with the dot in front of it, which a text may leave out. -/
  | dottedFraction (digits : Nat)
deriving DecidableEq, Repr

end Calendar

open Calendar

inductive PatternFault where
  | unterminatedQuote
  | unsupportedLetters (letter : Char) (count : Nat)
  | empty
deriving DecidableEq, Repr

def PatternFault.message : PatternFault → String
  | unterminatedQuote => "unterminated quote"
  | unsupportedLetters letter count =>
    "unsupported pattern letters \x60" ++ String.ofList (List.replicate count letter) ++ "\x60"
  | empty => "empty pattern"

/-- A compiled date pattern. -/
structure Pattern where
  /-- The text it was compiled from. -/
  source : String
  items : List Item
deriving DecidableEq, Repr

namespace Pattern

open Text

/-- The item of a piece of a pattern. -/
def item : Token → Except PatternFault Item
  | .char c => .ok (.literal c)
  | .run letter count =>
    match Component.ofRun? letter count with
    | some c => .ok (.component c)
    | none => .error (.unsupportedLetters letter count)

/-- Join each fraction with a dot that directly precedes it. -/
def joinDots : List Item → List Item
  | [] => []
  | .literal '.' :: .component (.fraction n) :: items => .dottedFraction n :: joinDots items
  | i :: items => i :: joinDots items

/-- Compile a pattern. Of several faults the leftmost is reported. -/
def compile (source : String) : Except PatternFault Pattern := do
  let (ts, isOpen) := tokens .plain source.toList
  let items ← ts.mapM item
  if isOpen then throw .unterminatedQuote
  if items.isEmpty then throw .empty
  return ⟨source, joinDots items⟩

/-! ## Printing -/

/-- The text of a year: four digits, or a sign and at least four digits outside 0 to 9999. -/
def printYear (year : Int) : List Char :=
  if 0 ≤ year ∧ year ≤ 9999 then padded 4 year.toNat
  else (if year < 0 then '-' else '+') :: padded 4 year.natAbs

/-- The text of a number of at most two digits. -/
def printPart (pad : Bool) (n : Nat) : List Char :=
  if pad then padded 2 n else digits n

def printName (long : Bool) (names : List String) (position : Nat) : List Char :=
  let name := (names[position]?).getD ""
  if long then name.toList else shortName name

/-- The text of the first digits of a fraction. -/
def printFraction (count : Nat) (t : Time) : List Char :=
  padded count (t.nanos % nanosPerSecond / powerOfTen (9 - count))

/-- The second of a time, where a leap second is the second 60. -/
def displayedSecond (t : Time) : Nat :=
  t.second + t.nanos / nanosPerSecond

def printOffset (style : OffsetStyle) : List Char :=
  if style.zulu then ['Z']
  else if style.colon then ['+', '0', '0', ':', '0', '0']
  else ['+', '0', '0', '0', '0']

/-- The text of a component of a date-time in UTC. -/
def printComponent (t : DateTime) : Component → List Char
  | .year => printYear t.date.year
  | .yearOfCentury => padded 2 (t.date.year % 100).toNat
  | .month pad => printPart pad t.date.month
  | .monthName long => printName long monthNames (t.date.month - 1)
  | .day pad => printPart pad t.date.day
  | .ordinal => padded 3 t.date.ordinal
  | .weekdayName long => printName long weekdayNames (weekdays.idxOf t.date.weekday)
  | .hour pad => printPart pad t.time.hour
  | .hour12 pad => printPart pad (if t.time.hour % 12 = 0 then 12 else t.time.hour % 12)
  | .minute pad => printPart pad t.time.minute
  | .second pad => printPart pad (displayedSecond t.time)
  | .fraction count => printFraction count t.time
  | .halfDay => if t.time.hour < 12 then ['A', 'M'] else ['P', 'M']
  | .offset style => printOffset style

def printItem (t : DateTime) : Item → List Char
  | .literal c => [c]
  | .component c => printComponent t c
  | .dottedFraction count => '.' :: printFraction count t.time

/-- Print a date-time in UTC. -/
def print (p : Pattern) (t : DateTime) : String :=
  String.ofList (p.items.flatMap (printItem t))

/-! ## Reading -/

/-- Read a component off the front of a text and record it. -/
def readComponent (f : Fields) (cs : List Char) : Component → Option (Fields × List Char)
  | .year => do
    let (n, rest) ← readYear cs
    return (← f.setYear n, rest)
  | .yearOfCentury => do
    let (n, rest) ← readNumber 2 cs
    return (← f.setYearOfCentury n, rest)
  | .month _ => do
    let (n, rest) ← readNumber 2 cs
    return (← f.setMonth n, rest)
  | .monthName long => do
    let (n, rest) ← readName long monthNames 0 cs
    return (← f.setMonth (n + 1), rest)
  | .day _ => do
    let (n, rest) ← readNumber 2 cs
    return (← f.setDay n, rest)
  | .ordinal => do
    let (n, rest) ← readNumber 3 cs
    return (← f.setOrdinal n, rest)
  | .weekdayName long => do
    let (n, rest) ← readName long weekdayNames 0 cs
    return (← f.setWeekday ((weekdays[n]?).getD .monday), rest)
  | .hour _ => do
    let (n, rest) ← readNumber 2 cs
    return (← f.setHour n, rest)
  | .hour12 _ => do
    let (n, rest) ← readNumber 2 cs
    return (← f.setHour12 n, rest)
  | .minute _ => do
    let (n, rest) ← readNumber 2 cs
    return (← f.setMinute n, rest)
  | .second _ => do
    let (n, rest) ← readNumber 2 cs
    return (← f.setSecond n, rest)
  | .fraction count => do
    let (n, rest) ← readFraction count cs
    return (← f.setNanos n, rest)
  | .halfDay => do
    let (b, rest) ← readHalfDay cs
    return (← f.setAfternoon b, rest)
  | .offset style => do
    let (n, rest) ← readOffset skipSeparators style.zulu (trimLeft cs)
    return (← f.setOffset n, rest)

/-- Read an item off the front of a text. -/
def readItem (f : Fields) (cs : List Char) : Item → Option (Fields × List Char)
  | .literal c => (readChar c cs).map fun rest => (f, rest)
  | .component c => readComponent f cs c
  | .dottedFraction count =>
    match cs with
    | '.' :: cs => do
      let (n, rest) ← readFraction count cs
      return (← f.setNanos n, rest)
    | cs => some (f, cs)

def readItems : List Item → Fields → List Char → Option (Fields × List Char)
  | [], f, cs => some (f, cs)
  | i :: items, f, cs => do
    let (f, rest) ← readItem f cs i
    readItems items f rest

/-- Read a whole text. -/
def read? (p : Pattern) (s : String) : Option Fields :=
  match readItems p.items {} s.toList with
  | some (f, []) => some f
  | _ => none

end Pattern

end ObjectDocument
