import ObjectDocument.Json.Basic
import ObjectDocument.Decimal.Reading

/-!
# Reading JSON text

A reader for JSON texts. Arrays and objects may be nested 127 levels deep. Integers that fit into
64 bits, signed or unsigned, stay integers; all other numbers become doubles, and a number that is
too large for a double is refused, as are unpaired surrogates and raw control characters in strings.
-/

namespace ObjectDocument

namespace Json

/-- The nesting levels that a text may have. -/
def maxDepth : Nat := 127

/-- Whether a character may stand between the parts of a text. -/
def isSpace (c : Char) : Bool :=
  c == ' ' || c == '\n' || c == '\t' || c == '\r'

def skipSpace (cs : List Char) : List Char :=
  cs.dropWhile isSpace

def hexValue? (c : Char) : Option Nat :=
  if '0' ≤ c ∧ c ≤ '9' then some (c.toNat - '0'.toNat)
  else if 'a' ≤ c ∧ c ≤ 'f' then some (c.toNat - 'a'.toNat + 10)
  else if 'A' ≤ c ∧ c ≤ 'F' then some (c.toNat - 'A'.toNat + 10)
  else none

/-- The value of four hexadecimal digits. -/
def hexUnit? (a b c d : Char) : Option Nat := do
  let a ← hexValue? a
  let b ← hexValue? b
  let c ← hexValue? c
  let d ← hexValue? d
  return ((a * 16 + b) * 16 + c) * 16 + d

/-- The character that a letter after a backslash stands for. -/
def escapeLetter? (c : Char) : Option Char :=
  if c = '"' then some '"'
  else if c = '\\' then some '\\'
  else if c = '/' then some '/'
  else if c = 'b' then some (Char.ofNat 8)
  else if c = 'f' then some (Char.ofNat 12)
  else if c = 'n' then some '\n'
  else if c = 'r' then some '\r'
  else if c = 't' then some '\t'
  else none

/-- Read the rest of a string after its opening quotation mark. -/
def readString : List Char → Option (List Char × List Char)
  | [] => none
  | '"' :: cs => some ([], cs)
  | '\\' :: 'u' :: a :: b :: c :: d :: cs =>
    match hexUnit? a b c d with
    | none => none
    | some unit =>
      if 0xdc00 ≤ unit ∧ unit < 0xe000 then none
      else if 0xd800 ≤ unit ∧ unit < 0xdc00 then
        match cs with
        | '\\' :: 'u' :: a' :: b' :: c' :: d' :: cs' =>
          match hexUnit? a' b' c' d' with
          | none => none
          | some low =>
            if 0xdc00 ≤ low ∧ low < 0xe000 then
              (readString cs').map fun (s, rest) =>
                (Char.ofNat (0x10000 + (unit - 0xd800) * 0x400 + (low - 0xdc00)) :: s, rest)
            else none
        | _ => none
      else (readString cs).map fun (s, rest) => (Char.ofNat unit :: s, rest)
  | '\\' :: c :: cs =>
    match escapeLetter? c with
    | none => none
    | some e => (readString cs).map fun (s, rest) => (e :: s, rest)
  | c :: cs =>
    if c.toNat < 32 ∨ c = '\\' then none
    else (readString cs).map fun (s, rest) => (c :: s, rest)

/-- The leading decimal digits and what follows them. -/
def readDigits (cs : List Char) : List Nat × List Char :=
  ((cs.takeWhile Char.isDigit).map (fun c => c.toNat - '0'.toNat), cs.dropWhile Char.isDigit)

def ofDigits (ds : List Nat) : Nat :=
  ds.foldl (fun n d => n * 10 + d) 0

/-- Read the sign and digits of an exponent after its letter. -/
def readExponent (cs : List Char) : Option (Int × List Char) :=
  let (negative, cs) := match cs with
    | '-' :: cs => (true, cs)
    | '+' :: cs => (false, cs)
    | cs => (false, cs)
  match readDigits cs with
  | ([], _) => none
  | (ds, rest) => some (if negative then -(ofDigits ds : Int) else ofDigits ds, rest)

/-- Read an exponent if one follows. -/
def readExponentPart (cs : List Char) : Option (Int × List Char) :=
  match cs with
  | 'e' :: cs => readExponent cs
  | 'E' :: cs => readExponent cs
  | cs => some (0, cs)

/-- An integer as a number: within 64 bits it stays one, outside it becomes a double, and so does
zero with a sign. -/
def integerNumber? (negative : Bool) (ds : List Nat) : Option Number :=
  let n := ofDigits ds
  if !negative && n < UInt64.size then some (.int n)
  else if negative && 0 < n && n ≤ Int64.minValue.toInt.natAbs then some (.int (-n))
  else do
    let x ← (Decimal.Gathered.integerPart ⟨0, 0⟩ ds).toFloat?
    return .float (if negative then -x else x)

def decimalNumber? (negative : Bool) (whole fraction : List Nat) (exponent : Int) :
    Option Number := do
  let g := (Decimal.Gathered.integerPart ⟨0, 0⟩ whole).fractionPart fraction
  let x ← Decimal.Gathered.toFloat? ⟨g.significand, g.exponent + exponent⟩
  return .float (if negative then -x else x)

/-- Read a number after its sign. The integer part has no leading zero, and a fraction has at least
one digit. -/
def readUnsigned (negative : Bool) (cs : List Char) : Option (Number × List Char) :=
  match readDigits cs with
  | ([], _) => none
  | (0 :: _ :: _, _) => none
  | (whole, '.' :: rest) =>
    match readDigits rest with
    | ([], _) => none
    | (fraction, rest) => do
      let (exponent, rest) ← readExponentPart rest
      let n ← decimalNumber? negative whole fraction exponent
      return (n, rest)
  | (whole, rest) =>
    match rest with
    | 'e' :: _ | 'E' :: _ => do
      let (exponent, rest) ← readExponentPart rest
      let n ← decimalNumber? negative whole [] exponent
      return (n, rest)
    | _ => do
      let n ← integerNumber? negative whole
      return (n, rest)

def readNumber : List Char → Option (Number × List Char)
  | '-' :: cs => readUnsigned true cs
  | cs => readUnsigned false cs

mutual

/-- Read a value. The first argument bounds the steps, the second the nesting levels. -/
def readValue : Nat → Nat → List Char → Option (Json × List Char)
  | 0, _, _ => none
  | fuel + 1, depth, cs =>
    match skipSpace cs with
    | '"' :: rest => (readString rest).map fun (s, rest) => (.string (String.ofList s), rest)
    | '[' :: rest =>
      match depth with
      | 0 => none
      | depth + 1 =>
        match skipSpace rest with
        | ']' :: rest => some (.array [], rest)
        | _ => (readItems fuel depth rest).map fun (js, rest) => (.array js, rest)
    | '\x7b' :: rest =>
      match depth with
      | 0 => none
      | depth + 1 =>
        match skipSpace rest with
        | '\x7d' :: rest => some (.object [], rest)
        | _ => (readEntries fuel depth rest).map fun (es, rest) => (.object es, rest)
    | 'n' :: 'u' :: 'l' :: 'l' :: rest => some (.null, rest)
    | 't' :: 'r' :: 'u' :: 'e' :: rest => some (.bool true, rest)
    | 'f' :: 'a' :: 'l' :: 's' :: 'e' :: rest => some (.bool false, rest)
    | cs => (readNumber cs).map fun (n, rest) => (.number n, rest)

/-- Read the items of an array, of which there is one at least, and its closing bracket. -/
def readItems : Nat → Nat → List Char → Option (List Json × List Char)
  | 0, _, _ => none
  | fuel + 1, depth, cs =>
    match readValue fuel depth cs with
    | none => none
    | some (j, rest) =>
      match skipSpace rest with
      | ']' :: rest => some ([j], rest)
      | ',' :: rest => (readItems fuel depth rest).map fun (js, rest) => (j :: js, rest)
      | _ => none

/-- Read the entries of an object, of which there is one at least, and its closing brace. -/
def readEntries : Nat → Nat → List Char → Option (List (String × Json) × List Char)
  | 0, _, _ => none
  | fuel + 1, depth, cs =>
    match skipSpace cs with
    | '"' :: rest =>
      match readString rest with
      | none => none
      | some (k, rest) =>
        match skipSpace rest with
        | ':' :: rest =>
          match readValue fuel depth rest with
          | none => none
          | some (j, rest) =>
            match skipSpace rest with
            | '\x7d' :: rest => some ([(String.ofList k, j)], rest)
            | ',' :: rest =>
              (readEntries fuel depth rest).map fun (es, rest) => ((String.ofList k, j) :: es, rest)
            | _ => none
        | _ => none
    | _ => none

end

/-- Read a text that holds one value. A repeated key has its first place and its last value. -/
def parse? (s : String) : Option Json :=
  match readValue (s.toList.length + 1) maxDepth s.toList with
  | some (j, rest) => if (skipSpace rest).isEmpty then some j.normalize else none
  | none => none

end Json

end ObjectDocument
