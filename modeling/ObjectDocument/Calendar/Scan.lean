import ObjectDocument.Calendar.Fields
import ObjectDocument.Text.Blank
import ObjectDocument.Text.Numeral

/-!
# Parts of dates in text

Readers for the parts that dates are written with: numbers, names of months and days, halves of the
day, fractions and offsets. Each takes its part off the front of a text and returns the rest.
-/

namespace ObjectDocument.Calendar

open Text

/-- A number of one to `width` digits after white space. -/
def readNumber (width : Nat) (cs : List Char) : Option (Nat × List Char) :=
  readNat width (trimLeft cs)

/-- A year after white space: up to four digits, or any number of digits after a sign. -/
def readYear (cs : List Char) : Option (Int × List Char) :=
  match trimLeft cs with
  | '-' :: cs => (readNat cs.length cs).map fun (n, rest) => (-(n : Int), rest)
  | '+' :: cs => (readNat cs.length cs).map fun (n, rest) => ((n : Int), rest)
  | cs => (readNat 4 cs).map fun (n, rest) => ((n : Int), rest)

/-- A fraction of exactly `count` digits, in nanoseconds. -/
def readFraction (count : Nat) (cs : List Char) : Option (Nat × List Char) :=
  (readFixed count cs).map fun (n, rest) => (n * powerOfTen (9 - count), rest)

/-- A fraction of at least one digit, in nanoseconds; the digits after the ninth do not count. -/
def readAnyFraction (cs : List Char) : Option (Nat × List Char) :=
  match takeDigits 9 cs with
  | ([], _) => none
  | (ds, rest) => some (ofDigits ds * powerOfTen (9 - ds.length), rest.dropWhile Char.isDigit)

/-- The rest of a text after a name, whose letters are compared without regard to their case. -/
def dropName? : List Char → List Char → Option (List Char)
  | [], cs => some cs
  | _ :: _, [] => none
  | n :: ns, c :: cs => if n.toLower = c.toLower then dropName? ns cs else none

def monthNames : List String :=
  ["January", "February", "March", "April", "May", "June", "July", "August", "September",
    "October", "November", "December"]

def weekdayNames : List String :=
  ["Monday", "Tuesday", "Wednesday", "Thursday", "Friday", "Saturday", "Sunday"]

/-- The letters of a short name. -/
def shortName (name : String) : List Char :=
  name.toList.take 3

/-- The first name of a list that begins a text, by its short form, with its position. A long name
is taken whole if the text goes on with the rest of it. -/
def readName (long : Bool) : List String → (position : Nat) → List Char →
    Option (Nat × List Char)
  | [], _, _ => none
  | name :: names, position, cs =>
    match dropName? (shortName name) cs with
    | none => readName long names (position + 1) cs
    | some rest =>
      if long then some (position, (dropName? (name.toList.drop 3) rest).getD rest)
      else some (position, rest)

/-- The half of the day. -/
def readHalfDay (cs : List Char) : Option (Bool × List Char) :=
  match dropName? ['a', 'm'] cs with
  | some rest => some (false, rest)
  | none => (dropName? ['p', 'm'] cs).map fun rest => (true, rest)

/-- The minus sign, apart from the hyphen. -/
def minusSign : Char := '\u2212'

/-- The sign of an offset, true for west. -/
def readSign : List Char → Option (Bool × List Char)
  | c :: cs =>
    if c = '+' then some (false, cs)
    else if c = '-' ∨ c = minusSign then some (true, cs)
    else none
  | [] => none

/-- An offset in seconds after its sign: two digits of hours, then what `separator` skips, then two
digits of minutes below 60. -/
def readHoursMinutes (separator : List Char → Option (List Char)) (west : Bool) (cs : List Char) :
    Option (Int × List Char) := do
  let (hours, cs) ← readFixed 2 cs
  let cs ← separator cs
  let (minutes, cs) ← readFixed 2 cs
  let seconds : Int := (hours * 60 + minutes) * 60
  if minutes < 60 then return (if west then -seconds else seconds, cs) else none

def skipSeparators (cs : List Char) : Option (List Char) :=
  some (cs.dropWhile fun c => c == ':' || isBlank c)

/-- An offset in seconds; where `zulu` is set, the letter Z stands for UTC. -/
def readOffset (separator : List Char → Option (List Char)) (zulu : Bool) (cs : List Char) :
    Option (Int × List Char) :=
  match cs with
  | c :: rest =>
    if zulu ∧ (c = 'Z' ∨ c = 'z') then some (0, rest)
    else (readSign cs).bind fun (west, rest) => readHoursMinutes separator west rest
  | [] => none

/-- Take one character off the front of a text. -/
def readChar (c : Char) : List Char → Option (List Char)
  | d :: cs => if d = c then some cs else none
  | [] => none

end ObjectDocument.Calendar
