import ObjectDocument.Lookup

/-!
# Index mappings

The mapping of an index tells the search engine how the fields of its documents are stored. Each
mapped property has an entry with its parameters; an embedded entity has the entries of its own
properties in it. An entity that is embedded in itself, directly or not, is unfolded once: where it
recurs inside itself its entry is left without properties.
-/

namespace ObjectDocument

/-- The entry of a field in a mapping. -/
inductive FieldMapping where
  | mk (parameters : Entries Json) (properties : Option (List (String × FieldMapping)))

/-- The entries of a mapping, by wire name. -/
abbrev Mapping := List (String × FieldMapping)

namespace FieldMapping

def parameters : FieldMapping → Entries Json
  | mk parameters _ => parameters

/-- The entries of an embedded entity. -/
def properties? : FieldMapping → Option Mapping
  | mk _ properties => properties

mutual

def toJson : FieldMapping → Json
  | mk parameters none => .object parameters
  | mk parameters (some properties) =>
    .object (parameters ++ [("properties", .object (entriesJson properties))])

def entriesJson : List (String × FieldMapping) → List (String × Json)
  | [] => []
  | (name, m) :: ms => (name, toJson m) :: entriesJson ms

end

end FieldMapping

def Mapping.toJson (m : Mapping) : Json :=
  .object [("properties", .object (FieldMapping.entriesJson m))]

namespace Mapping

/-- A parameter, if it has a value. -/
def parameter {α : Type} (key : String) (toJson : α → Json) : Option α → Entries Json
  | some a => [(key, toJson a)]
  | none => []

/-- A parameter that is only given where it is set. -/
def flag (key : String) (on : Bool) : Entries Json :=
  if on then [(key, .bool true)] else []

/-- The names of the date formats of a field, followed by its patterns. -/
def formatNames (f : Field) : List String :=
  (f.dateFormats.filter (!·.isUnnamed)).map DateFormat.name ++ f.patterns

/-- The date format of a field, if it is a date field that declares a format or a pattern. -/
def format? (f : Field) : Option String :=
  if f.type.isDate && (f.format.isSome || !f.patterns.isEmpty) && !(formatNames f).isEmpty then
    some (Text.join "||" (formatNames f))
  else none

def stringsJson (ss : List String) : Json :=
  .array (ss.map .string)

/-- The parameters of a field beside its type. -/
def fieldParameters (f : Field) : Entries Json :=
  parameter "format" .string (format? f) ++
  flag "store" f.store ++
  parameter "index" .bool f.index ++
  parameter "doc_values" .bool f.docValues ++
  flag "fielddata" f.fielddata ++
  parameter "analyzer" .string f.analyzer ++
  parameter "search_analyzer" .string f.searchAnalyzer ++
  parameter "normalizer" .string f.normalizer ++
  (if f.copyTo.isEmpty then [] else [("copy_to", stringsJson f.copyTo)]) ++
  parameter "ignore_above" (fun n : Nat => .int n) f.ignoreAbove ++
  parameter "null_value" id f.nullValue

/-- The storage type in the mapping: an identifier is a keyword unless it declares a type. -/
def typeOf (p : Property) : FieldType :=
  if p.role = .id && !p.hasExplicitType then .keyword else p.fieldType

def typeParameter (type : FieldType) : Entries Json :=
  [("type", .string type.name)]

/-- The relations of a join property, by parent. -/
def relationsJson (relations : List Relation) : Json :=
  .object (Entries.merge (relations.map fun r => (r.parent, stringsJson r.children)))

def innerJson (others : List InnerField) : Json :=
  .object (Entries.merge (others.map fun inner =>
    (inner.suffix, .object (typeParameter inner.field.type ++ fieldParameters inner.field))))

/-- The parameters of a property's entry. -/
def parametersOf (p : Property) : Entries Json :=
  typeParameter (typeOf p) ++
  (match p.field? with
    | some f => fieldParameters f
    | none => []) ++
  (if p.role = .join then [("relations", relationsJson p.relations)] else []) ++
  (match p.spec with
    | .multi _ others => [("fields", innerJson others)]
    | _ => [])

/-- The entity type whose properties belong into the entry of a property. -/
def embedded? (p : Property) : Option EntityRef :=
  if typeOf p = .object || typeOf p = .nested then p.kind.entity? else none

/-- The entry of a property, given how the mapping of an embedded entity is made; without one the
entry has no properties. -/
def entryOf (nested : Descriptor → Option (Lookup Mapping)) (p : Property) :
    Lookup (String × FieldMapping) :=
  match embedded? p with
  | none => pure (p.fieldName, .mk (parametersOf p) none)
  | some ref => .ask ref fun d =>
    match nested d with
    | none => pure (p.fieldName, .mk (parametersOf p) none)
    | some mapping => do
      let m ← mapping
      pure (p.fieldName, .mk (parametersOf p) (some m))

/-- The entries of properties, in order. -/
def entriesOf (entry : Property → Lookup (String × FieldMapping)) : List Property → Lookup Mapping
  | [] => pure []
  | p :: ps => do
    let e ← entry p
    let es ← entriesOf entry ps
    pure (e :: es)

/-- The names other than one. -/
def without (name : String) (names : List String) : List String :=
  names.filter fun n => n ≠ name

theorem length_without_lt {name : String} {names : List String} (h : name ∈ names) :
    (without name names).length < names.length := by
  refine Nat.lt_of_le_of_ne (List.length_filter_le ..) fun heq => ?_
  have := List.length_filter_eq_length_iff.1 heq name h
  simp at this

/-- The mapping of a descriptor, where only the entities with the given names may still be
unfolded. -/
def unfold (names : List String) (d : Descriptor) : Lookup Mapping :=
  entriesOf
    (entryOf fun nested =>
      if _h : nested.name ∈ names then
        some (unfold (without nested.name names) nested)
      else none)
    d.mapped
termination_by names.length
decreasing_by exact length_without_lt _h

/-- The mapping of an entity whose embedded types belong to a family. -/
def build (family : Family) (d : Descriptor) : Lookup Mapping :=
  unfold (without d.name (family.types.map (·.name))) d

end Mapping

end ObjectDocument
