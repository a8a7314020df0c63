import ObjectDocument.Converter.Basic
import ObjectDocument.DateFormat
import ObjectDocument.FieldType
import ObjectDocument.Json.Decode
import ObjectDocument.Json.Selection
import ObjectDocument.Text.Blank

/-!
# Fields

How a property is declared to the search engine: the parameters of its field, of further fields
that index the same value, and the relations of a join field.
-/

namespace ObjectDocument

structure Field where
  /-- The wire name, where it is declared. -/
  name : Option String := none
  type : FieldType := .auto
  /-- The date formats, where they are declared. -/
  format : Option (List DateFormat) := none
  pattern : List String := []
  store : Bool := false
  index : Option Bool := none
  docValues : Option Bool := none
  fielddata : Bool := false
  analyzer : Option String := none
  searchAnalyzer : Option String := none
  normalizer : Option String := none
  copyTo : List String := []
  ignoreAbove : Option Nat := none
  nullValue : Option Json := none
  /-- Write `null` for absent values instead of leaving the field out. -/
  storeNullValue : Bool := false
  converter : Option Converter := none

/-- A further field on the same value. -/
structure InnerField where
  suffix : String
  field : Field

/-- The children that a parent has in a join field. -/
structure Relation where
  parent : String
  children : List String
deriving DecidableEq, Repr

/-- How a property is declared. -/
inductive FieldSpec where
  /-- Not at all: the storage type is inferred. -/
  | inferred
  | single (field : Field)
  /-- Stored once and indexed by further fields too. -/
  | multi (main : Field) (others : List InnerField)

namespace Field

/-- The date formats in effect; without a declaration a date with an optional time, or
milliseconds. -/
def dateFormats (f : Field) : List DateFormat :=
  f.format.getD [.dateOptionalTime, .epochMillis]

/-- The patterns that are not blank. -/
def patterns (f : Field) : List String :=
  f.pattern.filter fun p => !Text.isBlankText p

def selection : Json.Selection :=
  .ofNames ["name", "type", "format", "pattern", "store", "index", "doc_values", "fielddata",
    "analyzer", "search_analyzer", "normalizer", "copy_to", "ignore_above", "null_value",
    "store_null_value"]

def format? (j : Json) : Option DateFormat :=
  j.name?.bind DateFormat.ofKey?

/-- Decode a field, given how names of fixed sets are read. -/
def decodeWith? (name? : Json → Option String) (j : Json) : Option Field := do
  match ← j.members? selection.names with
  | [name, type, format, pattern, store, index, docValues, fielddata, analyzer, searchAnalyzer,
      normalizer, copyTo, ignoreAbove, nullValue, storeNullValue] =>
    return {
      name := ← Json.optional Json.string? name
      type := ← Json.orDefault (fun t => (name? t).bind FieldType.ofName?) .auto type
      format := ← Json.optional (Json.list? fun f => (name? f).bind DateFormat.ofKey?) format
      pattern := ← Json.orDefault (Json.list? Json.string?) [] pattern
      store := ← Json.orDefault Json.bool? false store
      index := ← Json.optional Json.bool? index
      docValues := ← Json.optional Json.bool? docValues
      fielddata := ← Json.orDefault Json.bool? false fielddata
      analyzer := ← Json.optional Json.string? analyzer
      searchAnalyzer := ← Json.optional Json.string? searchAnalyzer
      normalizer := ← Json.optional Json.string? normalizer
      copyTo := ← Json.orDefault (Json.list? Json.string?) [] copyTo
      ignoreAbove := ← Json.optional Json.nat32? ignoreAbove
      nullValue := ← Json.optional Json.any? nullValue
      storeNullValue := ← Json.orDefault Json.bool? false storeNullValue }
  | _ => none

def decode? : Json → Option Field :=
  decodeWith? Json.name?

end Field

/-- Decode an inner field, an object with its suffix among the parameters of its field. -/
def InnerField.decode? (j : Json) : Option InnerField := do
  match j with
  | .object _ =>
    match ← j.members? ["suffix"] with
    | [suffix] =>
      return ⟨← Json.required Json.string? suffix, ← Field.decodeWith? Json.mergedName? j⟩
    | _ => none
  | _ => none

def Relation.selection : Json.Selection :=
  .ofNames ["parent", "children"]

def Relation.decode? (j : Json) : Option Relation := do
  match ← j.members? selection.names with
  | [parent, children] =>
    return ⟨← Json.required Json.string? parent,
      ← Json.required (Json.list? Json.string?) children⟩
  | _ => none

namespace FieldSpec

/-- The field that holds the value. -/
def mainField? : FieldSpec → Option Field
  | inferred => none
  | single field => some field
  | multi main _ => some main

def innerFields : FieldSpec → List InnerField
  | multi _ others => others
  | _ => []

/-- The fields of a record with a main field and further fields. Inner fields are read whole, as
no key tells by itself to which of their two records it belongs. -/
def multiSelection : Json.Selection :=
  .record [("main_field", Field.selection), ("other_fields", .whole)]

def selection : Json.Selection :=
  .choice [("field", Field.selection), ("multi_field", multiSelection)]

/-- Decode a main field with further fields. -/
def decodeMulti? (j : Json) : Option FieldSpec := do
  match ← j.members? multiSelection.names with
  | [main, others] =>
    return multi (← Json.orDefault Field.decode? {} main)
      (← Json.orDefault (Json.list? InnerField.decode?) [] others)
  | _ => none

def decode? : Json → Option FieldSpec
  | .string s => if s = "inferred" then some inferred else none
  | .object [(key, j)] =>
    if key = "inferred" then (if j.isNull then some inferred else none)
    else if key = "field" then (Field.decode? j).map single
    else if key = "multi_field" then decodeMulti? j
    else none
  | _ => none

end FieldSpec

end ObjectDocument
