import ObjectDocument.Property

/-!
# Descriptors

The mapping metadata of an entity type: the descriptors of its properties in order of declaration,
with tables of their positions by name, by wire name and by role, and its index if its instances are
documents of their own.
-/

namespace ObjectDocument

/-- The index of an entity type whose instances are documents. -/
structure DocumentMetadata where
  indexName : IndexName
  settings : Settings
  versionType : VersionType
  createIndex : Bool
deriving DecidableEq, Repr

/-- The mapping metadata of an entity type. -/
structure Descriptor where
  name : String
  properties : List Property
  /-- The position of each property by its name. -/
  byName : Entries Nat
  /-- The position of each property that is read or written by its wire name. -/
  byFieldName : Entries Nat
  /-- The position of the identifier, if there is one. -/
  idAt : Option Nat
  versionAt : Option Nat
  tokenAt : Option Nat
  joinAt : Option Nat
  document : Option DocumentMetadata

namespace Descriptor

/-- The property at a position that a table may give. -/
def propertyAt? (d : Descriptor) (position : Option Nat) : Option Property :=
  position.bind fun i => d.properties[i]?

def property? (d : Descriptor) (name : String) : Option Property :=
  d.propertyAt? (Entries.get? name d.byName)

/-- The property that is read or written under a wire name. -/
def propertyOfField? (d : Descriptor) (fieldName : String) : Option Property :=
  d.propertyAt? (Entries.get? fieldName d.byFieldName)

/-- The position of the property with a role that only one can have. -/
def roleAt (d : Descriptor) : Role → Option Nat
  | .id => d.idAt
  | .version => d.versionAt
  | .sequenceToken => d.tokenAt
  | .join => d.joinAt
  | .plain => none

def withRole? (d : Descriptor) (role : Role) : Option Property :=
  d.propertyAt? (d.roleAt role)

/-- The property that identifies the document. -/
def id? (d : Descriptor) : Option Property :=
  d.withRole? .id

/-- The property that counts the versions of the document. -/
def version? (d : Descriptor) : Option Property :=
  d.withRole? .version

/-- The property that holds the sequence token. -/
def token? (d : Descriptor) : Option Property :=
  d.withRole? .sequenceToken

/-- The property that places the document in a relation. -/
def join? (d : Descriptor) : Option Property :=
  d.withRole? .join

def relations (d : Descriptor) : List Relation :=
  match d.join? with
  | some p => p.relations
  | none => []

/-- The properties with an entry in the index mapping. -/
def mapped (d : Descriptor) : List Property :=
  d.properties.filter (·.isMapped)

/-- Whether instances are documents of their own. -/
def isDocument (d : Descriptor) : Bool :=
  d.document.isSome

/-- The version type; without an index it is the internal one. -/
def versionType (d : Descriptor) : VersionType :=
  match d.document with
  | some m => m.versionType
  | none => .internal

def createIndex (d : Descriptor) : Bool :=
  match d.document with
  | some m => m.createIndex
  | none => false

/-- The settings of the index, unless the server decides. -/
def settings? (d : Descriptor) : Option Json :=
  d.document.bind (·.settings.toJson?)

/-- The index that a request is addressed to. -/
def resolveIndex (d : Descriptor) (resolver : String → Option String) : Except Error String :=
  match d.document with
  | none => .error (.missingIndexName d.name)
  | some m =>
    match m.indexName.resolve resolver with
    | .ok name => .ok name
    | .error expression => .error (.unresolvedExpression expression)

end Descriptor

end ObjectDocument
