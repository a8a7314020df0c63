import ObjectDocument.Json.Basic
import ObjectDocument.Decimal.Shortest
import ObjectDocument.Text.Numeral

/-!
# JSON text

Two printed forms of a JSON value: the compact form without any blanks, and the indented form with
one entry or item on a line. Strings escape the quotation mark, the backslash and the control
characters below U+0020; a double is printed with the fewest digits that read back as it.
-/

namespace ObjectDocument

namespace Json

/-- The escape of a control character: a letter where there is one, four digits otherwise. -/
def controlEscape (c : Char) : List Char :=
  if c.toNat = 8 then ['\\', 'b']
  else if c.toNat = 9 then ['\\', 't']
  else if c.toNat = 10 then ['\\', 'n']
  else if c.toNat = 12 then ['\\', 'f']
  else if c.toNat = 13 then ['\\', 'r']
  else ['\\', 'u', '0', '0', Nat.digitChar (c.toNat / 16), Nat.digitChar (c.toNat % 16)]

/-- The form of a character inside a string. -/
def stringChar (c : Char) : List Char :=
  if c = '"' then ['\\', '"']
  else if c = '\\' then ['\\', '\\']
  else if c.toNat < 32 then controlEscape c
  else [c]

def printString (s : String) : List Char :=
  '"' :: s.toList.flatMap stringChar ++ ['"']

/-- The largest number of digits before the point of a double in positional form. -/
def positionalDigits : Int := 16

/-- The largest number of zeros between the point and the first digit in positional form. -/
def leadingZeros : Int := 4

/-- The exponent of the scientific form, with its sign. -/
def printExponent (e : Int) : List Char :=
  (if e < 0 then '-' else '+') :: Text.digits e.natAbs

/-- The printed form of a positive decimal. It is positional when it has at most 16 digits before
the point and at most four zeros after it before the first other digit, and scientific otherwise. -/
def printScaled (s : Decimal.Scaled) : List Char :=
  let digits := Text.digits s.digits
  let point : Int := digits.length + s.exponent
  if 0 ≤ s.exponent ∧ point ≤ positionalDigits then
    digits ++ List.replicate s.exponent.toNat '0' ++ ['.', '0']
  else if 0 < point ∧ point ≤ positionalDigits then
    digits.take point.toNat ++ '.' :: digits.drop point.toNat
  else if -leadingZeros ≤ point ∧ point ≤ 0 then
    ['0', '.'] ++ List.replicate (-point).toNat '0' ++ digits
  else
    digits.take 1 ++ (if digits.length = 1 then [] else '.' :: digits.drop 1)
      ++ 'e' :: printExponent (point - 1)

/-- The printed form of a finite double. -/
def printFloat (x : Float) : List Char :=
  let bits := x.toBits
  let magnitude := Decimal.Binary.ofBits bits
  let body := if magnitude.significand = 0 then ['0', '.', '0'] else printScaled magnitude.shortest
  if bits.toNat / Decimal.signUnit = 1 then '-' :: body else body

def printNumber : Number → List Char
  | .int n => Text.signedDigits n
  | .float x => printFloat x

mutual

def printChars : Json → List Char
  | null => "null".toList
  | bool true => "true".toList
  | bool false => "false".toList
  | number n => printNumber n
  | string s => printString s
  | array items => '[' :: printItems items
  | object entries => '\x7b' :: printEntries entries

/-- The items of an array and its closing bracket. -/
def printItems : List Json → List Char
  | [] => [']']
  | j :: js => printChars j ++ printMoreItems js

/-- The items after the first, each behind a comma, and the closing bracket. -/
def printMoreItems : List Json → List Char
  | [] => [']']
  | j :: js => ',' :: printChars j ++ printMoreItems js

/-- The entries of an object and its closing brace. -/
def printEntries : List (String × Json) → List Char
  | [] => ['\x7d']
  | (k, j) :: es => printString k ++ ':' :: printChars j ++ printMoreEntries es

/-- The entries after the first, each behind a comma, and the closing brace. -/
def printMoreEntries : List (String × Json) → List Char
  | [] => ['\x7d']
  | (k, j) :: es => ',' :: printString k ++ ':' :: printChars j ++ printMoreEntries es

end

def print (j : Json) : String :=
  String.ofList (printChars j)

/-- A line break and the indentation of a nesting level. -/
def lineBreak (level : Nat) : List Char :=
  '\n' :: List.replicate (2 * level) ' '

mutual

/-- The indented form of a value at a nesting level. An empty array or object has no line breaks. -/
def indentChars (level : Nat) : Json → List Char
  | array [] => ['[', ']']
  | array (j :: js) =>
    '[' :: lineBreak (level + 1) ++ indentChars (level + 1) j ++ indentItems level js
  | object [] => ['\x7b', '\x7d']
  | object ((k, j) :: es) =>
    '\x7b' :: lineBreak (level + 1) ++ printString k ++ [':', ' '] ++ indentChars (level + 1) j
      ++ indentEntries level es
  | null => "null".toList
  | bool b => (if b then "true" else "false").toList
  | number n => printNumber n
  | string s => printString s

/-- The items after the first, one on a line, and the closing bracket. -/
def indentItems (level : Nat) : List Json → List Char
  | [] => lineBreak level ++ [']']
  | j :: js =>
    ',' :: lineBreak (level + 1) ++ indentChars (level + 1) j ++ indentItems level js

/-- The entries after the first, one on a line, and the closing brace. -/
def indentEntries (level : Nat) : List (String × Json) → List Char
  | [] => lineBreak level ++ ['\x7d']
  | (k, j) :: es =>
    ',' :: lineBreak (level + 1) ++ printString k ++ [':', ' '] ++ indentChars (level + 1) j
      ++ indentEntries level es

end

/-- The text of a value with two blanks of indentation for each level. -/
def indented (j : Json) : String :=
  String.ofList (indentChars 0 j)

end Json

end ObjectDocument
