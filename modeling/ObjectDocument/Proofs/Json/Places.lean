import ObjectDocument.Document.Search

/-!
# Places in documents

A place says how to get to a value inside another one: by keys of objects and positions in arrays.
The fields at chosen places can be set to `null`, or taken out. Either way every other field keeps its
key and its order, and only changes inside if a place in it is chosen.
-/

namespace ObjectDocument

namespace Json

/-- A step from a value to one inside it. -/
inductive Step where
  | field (key : String)
  | item (index : Nat)
deriving DecidableEq

/-- The way from a value to one inside it. -/
abbrev Place := List Step

mutual

/-- A value with another one in the fields at chosen places, or without these fields. Inside a field
that is chosen itself nothing is left to choose. -/
def refill (chosen : Place → Bool) (new : Option Json) : Json → Json
  | array js => array (refillItems chosen new 0 js)
  | object es => object (refillEntries chosen new es)
  | null => null
  | bool b => bool b
  | number n => number n
  | string s => string s

/-- Refill the items of an array from a position on. -/
def refillItems (chosen : Place → Bool) (new : Option Json) (i : Nat) : List Json → List Json
  | [] => []
  | j :: js =>
    refill (fun place => chosen (.item i :: place)) new j :: refillItems chosen new (i + 1) js

/-- Refill the entries of an object. -/
def refillEntries (chosen : Place → Bool) (new : Option Json) :
    List (String × Json) → List (String × Json)
  | [] => []
  | (k, j) :: es =>
    if chosen [.field k] then
      (new.map fun j => (k, j)).toList ++ refillEntries chosen new es
    else
      (k, refill (fun place => chosen (.field k :: place)) new j) :: refillEntries chosen new es

end

variable {chosen : Place → Bool} {new : Option Json}

theorem get?_refillEntries (k : String) (es : Entries Json) :
    Entries.get? k (refillEntries chosen new es) =
      if chosen [.field k] then (Entries.get? k es).bind fun _ => new
      else (Entries.get? k es).map (refill (fun place => chosen (.field k :: place)) new) := by
  induction es with
  | nil => simp [refillEntries, Entries.get?]
  | cons e es ih =>
      obtain ⟨key, j⟩ := e
      rw [refillEntries, Entries.get?]
      by_cases hk : key = k
      · subst hk
        split
        next hchosen =>
          cases new with
          | none => simp [ih, hchosen]
          | some j => simp [Entries.get?]
        next hchosen => simp [Entries.get?]
      · split
        next hchosen =>
          cases new with
          | none => simp [ih]
          | some j => simp [ih, hk, Entries.get?]
        next hchosen => simp [ih, hk, Entries.get?]

theorem keys_refillEntries_sublist (es : Entries Json) :
    (Entries.keys (refillEntries chosen new es)).Sublist (Entries.keys es) := by
  induction es with
  | nil => exact List.nil_sublist _
  | cons e es ih =>
      obtain ⟨key, j⟩ := e
      rw [refillEntries]
      split
      · cases new with
        | none => exact ih.cons key
        | some j => exact ih.cons_cons key
      · exact ih.cons_cons key

mutual

/-- Nothing changes where nothing is chosen. -/
theorem refill_eq_self {chosen : Place → Bool} (h : ∀ place, chosen place = false) :
    ∀ j : Json, refill chosen new j = j
  | array js => by rw [refill, refillItems_eq_self (fun i place => h (.item i :: place)) 0 js]
  | object es => by rw [refill, refillEntries_eq_self (fun k place => h (.field k :: place)) es]
  | null | bool _ | number _ | string _ => by rw [refill]

theorem refillItems_eq_self {chosen : Place → Bool}
    (h : ∀ i place, chosen (.item i :: place) = false) :
    ∀ (i : Nat) (js : List Json), refillItems chosen new i js = js
  | _, [] => rfl
  | i, j :: js => by
    rw [refillItems, refill_eq_self (h i) j, refillItems_eq_self h (i + 1) js]

theorem refillEntries_eq_self {chosen : Place → Bool}
    (h : ∀ k place, chosen (.field k :: place) = false) :
    ∀ es : List (String × Json), refillEntries chosen new es = es
  | [] => rfl
  | (k, j) :: es => by
    rw [refillEntries, h k [], refill_eq_self (h k) j, refillEntries_eq_self h es]
    rfl

end

end Json

/-- A document with other values in chosen fields, or without these fields. -/
def Document.refill (chosen : Json.Place → Bool) (new : Option Json) (d : Document) : Document where
  entries := Json.refillEntries chosen new d.entries
  nodup_keys := d.nodup_keys.sublist (Json.keys_refillEntries_sublist d.entries)

namespace SearchDocument

/-- A document with `null` in the chosen fields of its body. -/
def nulled (doc : SearchDocument) (chosen : Json.Place → Bool) : SearchDocument :=
  { doc with source := doc.source.refill chosen (some .null) }

/-- A document without the chosen fields of its body. -/
def stripped (doc : SearchDocument) (chosen : Json.Place → Bool) : SearchDocument :=
  { doc with source := doc.source.refill chosen none }

end SearchDocument

end ObjectDocument
