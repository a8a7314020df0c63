import ObjectDocument.Field
import ObjectDocument.Index.Settings
import ObjectDocument.Role

/-!
# Definitions

The declaration of an entity type, apart from the objects that hold its data: its name, its
properties, and for a type whose instances are documents the index that they are stored in.
-/

namespace ObjectDocument

/-- The index of an entity type. -/
structure DocumentDefinition where
  /-- The name of the index, possibly with expressions. -/
  indexName : String
  settings : Settings := {}
  versionType : VersionType := .internal
  createIndex : Bool := true
deriving DecidableEq, Repr

structure PropertyDefinition where
  name : String
  kind : Kind
  role : Option DeclaredRole := none
  access : Access := .readWrite
  field : FieldSpec := .inferred
  /-- The relations of a join field. -/
  relations : List Relation := []

structure EntityDefinition where
  name : String
  document : Option DocumentDefinition := none
  properties : List PropertyDefinition := []

/-- The kinds that can be declared by name. -/
def Kind.named : List (String × Kind) :=
  [("boolean", .boolean), ("integer", .integer), ("long", .long), ("float", .float),
    ("double", .double), ("string", .string), ("local_date", .localDate),
    ("local_date_time", .localDateTime), ("instant", .instant), ("json", .json), ("join", .join),
    ("seq_no_primary_term", .sequenceToken)]

mutual

/-- Decode a kind; a list has its element as the value of its one key. -/
def Kind.decode? : Json → Option Kind
  | .string s => Entries.get? s Kind.named
  | .object entries => Kind.decodeEntries? entries
  | _ => none

/-- Decode a kind that is given as an object. -/
def Kind.decodeEntries? : List (String × Json) → Option Kind
  | [(key, j)] =>
    if key = "list" then (Kind.decode? j).map .list
    else if j.isNull then Entries.get? key Kind.named
    else none
  | _ => none

end

def DeclaredRole.decode? (j : Json) : Option DeclaredRole := do
  Entries.get? (← j.name?) [("id", DeclaredRole.id), ("version", DeclaredRole.version)]

def Access.decode? (j : Json) : Option Access := do
  Entries.get? (← j.name?) [("read_write", Access.readWrite), ("read_only", Access.readOnly),
    ("write_only", Access.writeOnly), ("transient", Access.transient)]

def DocumentDefinition.selection : Json.Selection :=
  .record [("index_name", .whole), ("settings", Settings.selection), ("version_type", .whole),
    ("create_index", .whole)]

def DocumentDefinition.decode? (j : Json) : Option DocumentDefinition := do
  match ← j.members? selection.names with
  | [indexName, settings, versionType, createIndex] =>
    return {
      indexName := ← Json.required Json.string? indexName
      settings := ← Json.orDefault Settings.decode? {} settings
      versionType := ← Json.orDefault VersionType.decode? .internal versionType
      createIndex := ← Json.orDefault Json.bool? true createIndex }
  | _ => none

def PropertyDefinition.selection : Json.Selection :=
  .record [("name", .whole), ("kind", .whole), ("role", .whole), ("access", .whole),
    ("field", FieldSpec.selection), ("relations", .items Relation.selection)]

def PropertyDefinition.decode? (j : Json) : Option PropertyDefinition := do
  match ← j.members? selection.names with
  | [name, kind, role, access, field, relations] =>
    return {
      name := ← Json.required Json.string? name
      kind := ← Json.required Kind.decode? kind
      role := ← Json.optional DeclaredRole.decode? role
      access := ← Json.orDefault Access.decode? .readWrite access
      field := ← Json.orDefault FieldSpec.decode? .inferred field
      relations := ← Json.orDefault (Json.list? Relation.decode?) [] relations }
  | _ => none

def EntityDefinition.selection : Json.Selection :=
  .record [("name", .whole), ("document", DocumentDefinition.selection),
    ("properties", .items PropertyDefinition.selection)]

def EntityDefinition.decode? (j : Json) : Option EntityDefinition := do
  match ← j.members? selection.names with
  | [name, document, properties] =>
    return {
      name := ← Json.required Json.string? name
      document := ← Json.optional DocumentDefinition.decode? document
      properties := ← Json.required (Json.list? PropertyDefinition.decode?) properties }
  | _ => none

/-- Read the text of a declaration of an entity type. -/
def EntityDefinition.parse? (text : String) : Option EntityDefinition :=
  (Json.parseSelected? selection text).bind decode?

end ObjectDocument
