import ObjectDocument.Converter.Dates
import ObjectDocument.Definition

/-!
# Properties

The descriptor of a property: its wire name, storage type, role and converter, derived once from its
declaration.
-/

namespace ObjectDocument

/-- The converter of a property. -/
inductive PropertyConverter where
  /-- Given with the field. -/
  | explicit (c : Converter)
  /-- Derived from the date formats of the field. -/
  | dates (c : DateConverter)

def PropertyConverter.toConverter : PropertyConverter → Converter
  | explicit c => c
  | dates c => c.toConverter

/-- The descriptor of a property. -/
structure Property where
  /-- The place in the order of declaration. -/
  position : Nat
  name : String
  /-- The name in documents. -/
  fieldName : String
  kind : Kind
  /-- The storage type; an automatic type is replaced by the inferred one. -/
  fieldType : FieldType
  spec : FieldSpec
  relations : List Relation
  role : Role
  access : Access
  converter : Option PropertyConverter

namespace Property

/-- The field that holds the value, if the property declares one. -/
def field? (p : Property) : Option Field :=
  p.spec.mainField?

/-- Whether the property declares a storage type. -/
def hasExplicitType (p : Property) : Bool :=
  match p.field? with
  | some f => f.type ≠ .auto
  | none => false

/-- Whether the property is read from the bodies of documents. -/
def isReadable (p : Property) : Bool :=
  !p.role.isOutOfBand && p.access.reads

/-- Whether the property is written to the bodies of documents. -/
def isWritable (p : Property) : Bool :=
  !p.role.isOutOfBand && p.access.writes

/-- Whether the property has an entry in the index mapping. -/
def isMapped (p : Property) : Bool :=
  !p.role.isOutOfBand && p.access ≠ .transient

/-- Whether an absent value is written as `null`. -/
def storesNull (p : Property) : Bool :=
  match p.field? with
  | some f => f.storeNullValue
  | none => false

/-- The names that stand for an identifier without a declaration. -/
def implicitIdNames : List String :=
  ["id", "documentId"]

/-- Whether the property may become the identifier without a declaration. -/
def isImplicitId (p : Property) : Bool :=
  p.role = .plain && implicitIdNames.contains p.name && p.kind.isIdentifier &&
    p.access ≠ .transient

/-- The role of a declaration. Tokens and joins have theirs by kind. -/
def roleOf (d : PropertyDefinition) : Role :=
  match d.role, d.kind.element with
  | some .id, _ => .id
  | some .version, _ => .version
  | none, .sequenceToken => .sequenceToken
  | none, .join => .join
  | none, _ => .plain

/-- What is wrong with the role of a declaration. -/
def roleFault? (d : PropertyDefinition) : Option PropertyFault :=
  let role := roleOf d
  if role = .id ∧ !d.kind.isIdentifier then some .identifierKind
  else if role = .version ∧ !d.kind.isVersion then some .versionKind
  else if (role = .sequenceToken ∨ role = .join) ∧ d.kind.isCollection then some .collection
  else if role = .join ∧ d.relations = [] then some .noRelations
  else if role ≠ .join ∧ d.relations ≠ [] then some .strayRelations
  else none

/-- The storage type that a declaration names. -/
def declaredType (spec : FieldSpec) : FieldType :=
  match spec.mainField? with
  | some f => f.type
  | none => .auto

/-- Check an inner field: it has a suffix, and a type of single values. -/
def checkInner (entity property : String) (inner : InnerField) : Except Error Unit :=
  if Text.isBlankText inner.suffix then
    .error (.invalidConfiguration entity property .blankSuffix)
  else if inner.field.type = .auto then
    .error (.invalidConfiguration entity property .untypedInnerField)
  else if inner.field.type.isObject ∨ inner.field.type = .join then
    .error (.unsupportedFieldType entity property inner.field.type)
  else .ok ()

/-- Whether the values of a field are dates that need a date converter. -/
def needsDates (kind : Kind) (field : Field) : Bool :=
  field.converter.isNone && field.type.isDate && kind.isTemporal

/-- The converter of a property. One that is given with the field wins; dates in a date field are
converted by the formats of the field; other values have none. -/
def converterOf (entity property : String) (kind : Kind) (field : Option Field) :
    Except Error (Option PropertyConverter) :=
  match field with
  | none => .ok none
  | some field =>
    match field.converter with
    | some c => .ok (some (.explicit c))
    | none =>
      if !field.type.isDate then .ok none
      else if field.dateFormats.contains .custom ∧ field.patterns = [] then
        .error (.missingDatePattern entity property)
      else if !kind.isTemporal then .ok none
      else (DateConverter.build kind.element field.dateFormats field.patterns).map
        fun c => c.map .dates

/-- Build the descriptor of the property declared at a position of an entity. -/
def build (config : Config) (entity : String) (position : Nat) (d : PropertyDefinition) :
    Except Error Property := do
  if let some fault := roleFault? d then
    throw (.invalidConfiguration entity d.name fault)
  let declared := declaredType d.field
  if !declared.accepts d.kind then
    throw (.unsupportedFieldType entity d.name declared)
  d.field.innerFields.forM (checkInner entity d.name)
  let role := roleOf d
  let converter ←
    if role = .plain ∨ role = .id then converterOf entity d.name d.kind d.field.mainField?
    else pure none
  return {
    position := position
    name := d.name
    fieldName := config.naming.resolve d.name (d.field.mainField?.bind (·.name))
    kind := d.kind
    fieldType :=
      if declared = .auto then (FieldType.infer? d.kind).getD .auto else declared
    spec := d.field
    relations := d.relations
    role := role
    access := d.access
    converter := converter }

/-- Whether the property is a date property whose field has neither a format nor a pattern, so that
its values keep their default forms. -/
def lacksDateForm (p : Property) : Bool :=
  (p.role = .plain || p.role = .id) && p.converter.isNone &&
    match p.field? with
    | some f => needsDates p.kind f
    | none => false

end Property

end ObjectDocument
