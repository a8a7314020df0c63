import ObjectDocument.Validation

/-!
# Building descriptors

The descriptor of a definition, or the first thing that is wrong with it: first each property for
itself, then repeated names, roles and wire names, then the index name, and at last the field names
if the configuration is strict. The tables of a descriptor are made by these checks, the one of names
before a property without a declaration is made the identifier and all others after it.
-/

namespace ObjectDocument

namespace Descriptor

/-- Build the properties that are declared from a position on. -/
def buildProperties (config : Config) (entity : String) :
    (position : Nat) → List PropertyDefinition → Except Error (List Property)
  | _, [] => .ok []
  | position, d :: ds => do
    let p ← Property.build config entity position d
    let ps ← buildProperties config entity (position + 1) ds
    return p :: ps

/-- Make the first property that may be one without a declaration the identifier. -/
def promoteFirst : List Property → List Property
  | [] => []
  | p :: ps => if p.isImplicitId then { p with role := .id } :: ps else p :: promoteFirst ps

/-- Give the entity an identifier, if no property is declared as one. -/
def promoteId (ps : List Property) : List Property :=
  if ps.any fun p => p.role = .id then ps else promoteFirst ps

/-- Enter properties into a table, each with its position under its key. If the key of one is taken,
that property is given back with its position, behind the position that has its key. -/
def enter (key : Property → String) : Entries Nat → List (Property × Nat) →
    Except (Nat × Property × Nat) (Entries Nat)
  | table, [] => .ok table
  | table, (p, i) :: rest =>
    match Entries.get? (key p) table with
    | some other => .error (other, p, i)
    | none => enter key (Entries.set (key p) i table) rest

/-- The positions of properties by their names, which have to be distinct. -/
def indexNames (entity : String) (ps : List Property) : Except Error (Entries Nat) :=
  match enter Property.name [] ps.zipIdx with
  | .ok table => .ok table
  | .error (other, p, i) =>
    .error (.invalidConfiguration entity p.name (.declaredTwice other i))

/-- The position of the property with a role, if there is one. No second one may have it. -/
def uniqueRole (entity : String) (ps : List Property) (role : Role) : Except Error (Option Nat) :=
  match ps.zipIdx.filter fun e => e.1.role = role with
  | [] => .ok none
  | [(_, i)] => .ok (some i)
  | (first, _) :: (second, _) :: _ => .error (.duplicateRole entity role second.name first.name)

/-- The name of the property at a position of a list. -/
def nameAt (ps : List Property) (i : Nat) : String :=
  (ps[i]?.map (·.name)).getD ""

/-- The properties that are read or written, each with its position. -/
def travelling (ps : List Property) : List (Property × Nat) :=
  ps.zipIdx.filter fun e => e.1.isReadable || e.1.isWritable

/-- The positions of the properties that are read or written by their wire names, which have to be
distinct. -/
def indexFieldNames (entity : String) (ps : List Property) : Except Error (Entries Nat) :=
  match enter Property.fieldName [] (travelling ps) with
  | .ok table => .ok table
  | .error (other, p, _) =>
    .error (.duplicateFieldName entity p.fieldName p.name (nameAt ps other))

/-- The index metadata of a definition. -/
def buildDocument (d : DocumentDefinition) : Except Error DocumentMetadata :=
  match IndexName.parse d.indexName with
  | .ok indexName => .ok ⟨indexName, d.settings, d.versionType, d.createIndex⟩
  | .error fault => .error (.invalidIndexName fault)

/-- The index metadata of a definition that may lack an index. -/
def buildDocument? : Option DocumentDefinition → Except Error (Option DocumentMetadata)
  | none => .ok none
  | some d => (buildDocument d).map some

/-- Fail with the first error among diagnostics. -/
def failOnError (entity : String) (diagnostics : List Diagnostic) : Except Error Unit :=
  match diagnostics.find? (·.isError) with
  | some diagnostic => .error (.invalidFieldName entity diagnostic)
  | none => .ok ()

def build (config : Config) (definition : EntityDefinition) : Except Error Descriptor := do
  let declared ← buildProperties config definition.name 0 definition.properties
  let byName ← indexNames definition.name declared
  let properties := promoteId declared
  let idAt ← uniqueRole definition.name properties .id
  let versionAt ← uniqueRole definition.name properties .version
  let tokenAt ← uniqueRole definition.name properties .sequenceToken
  let joinAt ← uniqueRole definition.name properties .join
  let byFieldName ← indexFieldNames definition.name properties
  let document ← buildDocument? definition.document
  let descriptor : Descriptor :=
    ⟨definition.name, properties, byName, byFieldName, idAt, versionAt, tokenAt, joinAt, document⟩
  failOnError definition.name (descriptor.validate config.strict)
  return descriptor

/-- A warning that goes with a successful build. -/
structure Warning where
  /-- The property that the warning is about, if it is about one. -/
  property : Option String
  message : String
deriving DecidableEq, Repr

/-- The wording for a date property without a format. -/
def dateFormWarning : String :=
  "date property has neither a date format nor a pattern; values are written as ISO-8601"

/-- The warnings that go with a descriptor: date properties without a format, and the diagnostics,
which a strict build does not get to. -/
def warnings (d : Descriptor) : List Warning :=
  (d.properties.filter (·.lacksDateForm)).map (fun p => ⟨some p.name, dateFormWarning⟩) ++
    (d.validate false).map fun diagnostic => ⟨none, diagnostic.display⟩

end Descriptor

end ObjectDocument
