import ObjectDocument.Text.Alphanumeric
import ObjectDocument.Text.LetterCase
import ObjectDocument.Text.Split

/-!
# Field names

A naming strategy computes the wire name of a property that does not declare one. Snake case cuts
the name into words at the characters that are neither letters nor digits and at changes of case,
lower-cases the words and puts an underscore between them.
-/

namespace ObjectDocument

namespace Naming

open Text

/-- The case of the last cased letter of a word part, if it has one. -/
inductive LastCase where
  | none
  | lower
  | upper
deriving DecidableEq, Repr

/-- The last case after one more character. -/
def LastCase.after (last : LastCase) (c : Char) : LastCase :=
  if isLowercase c then .lower else if isUppercase c then .upper else last

/-- Cut a run of letters and digits into words. A word ends between a part whose last cased letter
is lower-case and a capital, and before the last of two capitals when a lower-case letter follows. -/
def words : LastCase → List Char → List (List Char)
  | _, [] => []
  | _, [c] => [[c]]
  | last, c :: d :: rest =>
    if last.after c = .lower ∧ isUppercase d then
      [c] :: words .none (d :: rest)
    else if last = .upper ∧ isUppercase c ∧ isLowercase d then
      [] :: consHead c (words .none (d :: rest))
    else
      consHead c (words (last.after c) (d :: rest))

/-- A word in lower case; a capital sigma that ends it becomes a final sigma. -/
def lowerWord : List Char → List Char
  | [] => []
  | [c] => if c = capitalSigma then [finalSigma] else lowercaseChar c
  | c :: d :: cs => lowercaseChar c ++ lowerWord (d :: cs)

def snakeCase (cs : List Char) : List Char :=
  ['_'].intercalate
    (((splitWhere (fun c => !isAlphanumeric c) cs).flatMap (words .none)).map lowerWord)

end Naming

/-- How the wire name of a property is computed from its declared name. -/
inductive NamingStrategy where
  | identity
  | snakeCase
  /-- A strategy of the caller. -/
  | given (compute : String → String)

namespace NamingStrategy

/-- The wire name that the strategy computes for a declared name. -/
def fieldName : NamingStrategy → String → String
  | identity, property => property
  | snakeCase, property => String.ofList (Naming.snakeCase property.toList)
  | given compute, property => compute property

/-- The wire name of a property: an explicit name that is not empty wins over the strategy. -/
def resolve (strategy : NamingStrategy) (property : String) : Option String → String
  | some name => if name.isEmpty then strategy.fieldName property else name
  | none => strategy.fieldName property

end NamingStrategy

end ObjectDocument
