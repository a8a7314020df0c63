import ObjectDocument.Entries

/-!
# JSON values

The tree of a JSON text. An object keeps its entries in order; entries with a repeated key are kept
as read until the object is normalised, which gives each key its first place and its last value.
-/

namespace ObjectDocument

/-- A number of a JSON text: an integer without fraction and exponent, or a double. -/
inductive Number where
  | int (n : Int)
  | float (x : Float)

/-- Numbers are equal when they are of one form and equal in value, so `3` differs from `3.0`. -/
def Number.same : Number → Number → Bool
  | int m, int n => m == n
  | float x, float y => x == y
  | _, _ => false

inductive Json where
  | null
  | bool (b : Bool)
  | number (n : Number)
  | string (s : String)
  | array (items : List Json)
  | object (entries : List (String × Json))

namespace Json

def int (n : Int) : Json := number (.int n)

instance : Inhabited Json := ⟨null⟩

mutual

/-- Merge repeated keys in every object of a value. -/
def normalize : Json → Json
  | array items => array (normalizeItems items)
  | object entries => object (Entries.merge (normalizeEntries entries))
  | null => null
  | bool b => bool b
  | number n => number n
  | string s => string s

def normalizeItems : List Json → List Json
  | [] => []
  | j :: js => normalize j :: normalizeItems js

def normalizeEntries : List (String × Json) → List (String × Json)
  | [] => []
  | (k, j) :: es => (k, normalize j) :: normalizeEntries es

end

mutual

/-- Whether two values are equal. The order of the keys of an object does not matter. -/
def same : Json → Json → Bool
  | null, null => true
  | bool a, bool b => a == b
  | number a, number b => a.same b
  | string a, string b => a == b
  | array as, array bs => sameItems as bs
  | object as, object bs => as.length == bs.length && sameEntries as bs
  | _, _ => false

def sameItems : List Json → List Json → Bool
  | [], [] => true
  | a :: as, b :: bs => same a b && sameItems as bs
  | _, _ => false

/-- Whether each entry has its key in the other object with an equal value. -/
def sameEntries : List (String × Json) → List (String × Json) → Bool
  | [], _ => true
  | (k, a) :: as, bs =>
    (match Entries.get? k bs with
      | some b => same a b
      | none => false) && sameEntries as bs

end

def isNull : Json → Bool
  | null => true
  | _ => false

/-- The value of a key of an object. -/
def field? (key : String) : Json → Option Json
  | object entries => Entries.get? key entries
  | _ => none

end Json

end ObjectDocument
