import ObjectDocument.Json.Basic
import ObjectDocument.Text.Numeral

/-!
# Decoding records

Definitions and envelopes are records in JSON: an object with known keys, or an array of the fields
in their order. Unknown keys are skipped, a known key must not be repeated, and `null` is a value
only of an optional field. A name of a fixed set is a string, or an object whose one key it is.
-/

namespace ObjectDocument.Json

/-- The fields of a record with the given names, in that order. -/
def members? (names : List String) : Json → Option (List (Option Json))
  | object entries => names.mapM fun name =>
    match entries.filter (fun e => e.1 = name) with
    | [] => some none
    | [(_, j)] => some (some j)
    | _ => none
  | array items =>
    if items.length ≤ names.length then
      some (items.map some ++ List.replicate (names.length - items.length) none)
    else none
  | _ => none

/-- A field that has to be there. -/
def required {α : Type} (decode : Json → Option α) : Option Json → Option α
  | some j => decode j
  | none => none

def orDefault {α : Type} (decode : Json → Option α) (default : α) : Option Json → Option α
  | some j => decode j
  | none => some default

/-- A value or `null`. -/
def nullable {α : Type} (decode : Json → Option α) : Json → Option (Option α)
  | null => some none
  | j => (decode j).map some

/-- An optional field, which may also be `null`. -/
def optional {α : Type} (decode : Json → Option α) : Option Json → Option (Option α) :=
  orDefault (nullable decode) none

def string? : Json → Option String
  | string s => some s
  | _ => none

def bool? : Json → Option Bool
  | bool b => some b
  | _ => none

def int64? : Json → Option Int64
  | number (.int n) => Text.int64? n
  | _ => none

/-- A natural number of 32 bits. -/
def nat32? : Json → Option Nat
  | number (.int n) => if 0 ≤ n ∧ n.toNat < UInt32.size then some n.toNat else none
  | _ => none

/-- The double nearest to an integer of 64 bits, with or without a sign. -/
def floatOfInt (n : Int) : Float :=
  if n < 0 then -(UInt64.ofNat n.natAbs).toFloat else (UInt64.ofNat n.natAbs).toFloat

/-- A number as a double. -/
def float? : Json → Option Float
  | number (.int n) => some (floatOfInt n)
  | number (.float x) => some x
  | _ => none

/-- An array of values of one form. -/
def list? {α : Type} (decode : Json → Option α) : Json → Option (List α)
  | array items => items.mapM decode
  | _ => none

/-- A name of a fixed set. -/
def name? : Json → Option String
  | string s => some s
  | object [(s, null)] => some s
  | _ => none

/-- A name of a fixed set in a record whose fields stand among those of another: the one key of an
object may hold an empty object too. -/
def mergedName? : Json → Option String
  | object [(s, object [])] => some s
  | j => j.name?

def any? (j : Json) : Option Json :=
  some j.normalize

end ObjectDocument.Json
