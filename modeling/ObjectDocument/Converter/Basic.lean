import ObjectDocument.Text.Numeral
import ObjectDocument.Value

/-!
# Converters

A converter stores the values of a property as text. It is applied to each element of a collection,
and to a number of a document by its JSON text.
-/

namespace ObjectDocument

/-- The two directions between values and their text in documents. -/
structure Converter where
  write : Value → Except Mismatch String
  read : String → Except Mismatch Value

namespace Converter

/-- A text with its ASCII letters in upper case. -/
def upperCase (s : String) : String :=
  String.ofList (s.toList.map Char.toUpper)

/-- A text with its ASCII letters in lower case. -/
def lowerCase (s : String) : String :=
  String.ofList (s.toList.map Char.toLower)

/-- Stores strings in upper case and reads every text in lower case. -/
def capitals : Converter where
  write
    | .string s => .ok (upperCase s)
    | v => .error (v.mismatch .string)
  read s := .ok (.string (lowerCase s))

/-- The expectation of a text that is a marked integer. -/
def markedInteger : Expectation :=
  .other "# and an integer"

/-- Stores the display text of a value behind a hash sign, and reads integers behind one. -/
def hashed : Converter where
  write v := .ok ("#" ++ v.display)
  read s :=
    match s.toList with
    | '#' :: cs =>
      match Text.parseInt64? (String.ofList cs) with
      | some n => .ok (.long n)
      | none => .error ⟨markedInteger, s⟩
    | _ => .error ⟨markedInteger, s⟩

end Converter

end ObjectDocument
