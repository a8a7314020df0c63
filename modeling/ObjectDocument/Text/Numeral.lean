/-!
# Numerals

Decimal numerals: digits padded with zeros to a width, digits read off the front of a text, and
integers of 64 bits, which are written with an optional sign and ASCII digits only.
-/

namespace ObjectDocument.Text

/-- The decimal digits of a number. -/
def digits (n : Nat) : List Char :=
  Nat.toDigits 10 n

/-- The decimal digits of a number, with zeros in front up to a width. -/
def padded (width n : Nat) : List Char :=
  List.replicate (width - (digits n).length) '0' ++ digits n

/-- The decimal digits of an integer, with a sign if it is negative. -/
def signedDigits (n : Int) : List Char :=
  if n < 0 then '-' :: digits n.natAbs else digits n.natAbs

/-- The first number with more than `count` decimal digits. -/
def powerOfTen (count : Nat) : Nat :=
  Nat.pow 10 count

def digitValue (c : Char) : Nat :=
  c.toNat - '0'.toNat

/-- The number that decimal digits stand for. -/
def ofDigits (cs : List Char) : Nat :=
  cs.foldl (fun n c => n * 10 + digitValue c) 0

/-- At most `limit` leading decimal digits, and what follows them. -/
def takeDigits : Nat → List Char → List Char × List Char
  | 0, cs => ([], cs)
  | _, [] => ([], [])
  | limit + 1, c :: cs =>
    if c.isDigit then
      let (ds, rest) := takeDigits limit cs
      (c :: ds, rest)
    else ([], c :: cs)

/-- A number of one to `limit` digits at the front of a text. -/
def readNat (limit : Nat) (cs : List Char) : Option (Nat × List Char) :=
  match takeDigits limit cs with
  | ([], _) => none
  | (ds, rest) => some (ofDigits ds, rest)

/-- A number of exactly `count` digits at the front of a text. -/
def readFixed (count : Nat) (cs : List Char) : Option (Nat × List Char) :=
  let (ds, rest) := takeDigits count cs
  if ds.length = count then some (ofDigits ds, rest) else none

/-- The integer that a text of decimal digits stands for, if it is not empty. -/
def unsigned? (cs : List Char) : Option Nat :=
  if cs ≠ [] ∧ cs.all Char.isDigit then some (ofDigits cs) else none

/-- The integer that a text with an optional sign stands for. -/
def signed? : List Char → Option Int
  | '-' :: cs => (unsigned? cs).map fun n => -(n : Int)
  | '+' :: cs => (unsigned? cs).map fun n => (n : Int)
  | cs => (unsigned? cs).map fun n => (n : Int)

/-- The 64-bit integer with a given value, if it is in range. -/
def int64? (n : Int) : Option Int64 :=
  if Int64.minValue.toInt ≤ n ∧ n ≤ Int64.maxValue.toInt then some (Int64.ofInt n) else none

def parseInt64? (s : String) : Option Int64 :=
  (signed? s.toList).bind int64?

def int64Text (n : Int64) : String :=
  String.ofList (signedDigits n.toInt)

end ObjectDocument.Text
