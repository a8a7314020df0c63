import ObjectDocument.Calendar.Pattern
import ObjectDocument.Config
import ObjectDocument.Diagnostic
import ObjectDocument.FieldType
import ObjectDocument.Index.Name
import ObjectDocument.Role
import ObjectDocument.Value

/-!
# Errors

Errors are of two groups. Those of the configuration arise once, when the descriptor of an entity
type is built, and are kept in its place. All others arise for a single value or request.
-/

namespace ObjectDocument

/-- What is wrong with the declaration of a property. -/
inductive PropertyFault where
  | identifierKind
  | versionKind
  | collection
  | noRelations
  | strayRelations
  | blankSuffix
  | untypedInnerField
  | declaredTwice (first second : Nat)
deriving DecidableEq, Repr

def PropertyFault.message : PropertyFault → String
  | identifierKind => "an identifier must hold a string or an integer"
  | versionKind => "a version must hold an integer"
  | collection => "must not be a collection"
  | noRelations => "a join field must declare at least one relation"
  | strayRelations => "relations are only allowed on a join field"
  | blankSuffix => "inner fields must have a suffix"
  | untypedInnerField => "inner fields must declare a type"
  | declaredTwice first second =>
    "declared twice (positions " ++ toString first ++ " and " ++ toString second ++ ")"

/-- Why an operation fails. -/
inductive Error where
  | invalidConfiguration (entity property : String) (fault : PropertyFault)
  /-- A date property has a format of its own but no pattern. -/
  | missingDatePattern (entity property : String)
  | invalidPattern (pattern : String) (fault : PatternFault)
  /-- Two properties claim a role that only one can have. -/
  | duplicateRole (entity : String) (role : Role) (current other : String)
  /-- Two properties have one wire name. -/
  | duplicateFieldName (entity field current other : String)
  /-- A storage type cannot hold the values of a property. -/
  | unsupportedFieldType (entity property : String) (type : FieldType)
  | unknownFieldType (name : String)
  /-- A field name is found wanting in strict mode. -/
  | invalidFieldName (entity : String) (diagnostic : Diagnostic)
  | invalidSetting (fault : ParameterFault)
  | invalidIndexName (fault : IndexNameFault)
  /-- A value cannot be converted to or from its form in documents. -/
  | conversion (entity property value : String) (reason : Mismatch)
  /-- A constructor lacks a value that it needs. -/
  | missingArgument (entity property : String)
  | unknownProperty (entity property : String)
  /-- A property cannot be changed. -/
  | readOnlyProperty (entity property : String)
  /-- An instance is of another type than requested. -/
  | unexpectedType (expected found : String)
  /-- An expression of an index name has no value. -/
  | unresolvedExpression (expression : String)
  /-- An entity that is only embedded has no index. -/
  | missingIndexName (entity : String)
  /-- A text is not the JSON that it should be. -/
  | malformedJson
deriving DecidableEq, Repr

namespace Error

def path (entity property : String) : String :=
  "\x60" ++ entity ++ "." ++ property ++ "\x60"

/-- A name between backquotes. -/
def ticked (name : String) : String :=
  "\x60" ++ name ++ "\x60"

def message : Error → String
  | invalidConfiguration entity property fault =>
    "invalid configuration of " ++ path entity property ++ ": " ++ fault.message
  | missingDatePattern entity property =>
    "property " ++ path entity property ++
      " is declared with a custom date format but has no pattern defined"
  | invalidPattern pattern fault =>
    "invalid date pattern " ++ ticked pattern ++ ": " ++ fault.message
  | duplicateRole entity role current other =>
    "entity " ++ ticked entity ++ " declares " ++ role.name ++ " on both " ++ ticked current ++
      " and " ++ ticked other
  | duplicateFieldName entity field current other =>
    "entity " ++ ticked entity ++ " maps both " ++ ticked current ++ " and " ++ ticked other ++
      " to field " ++ ticked field
  | unsupportedFieldType entity property type =>
    "property " ++ path entity property ++ " cannot be stored as " ++ ticked type.name
  | unknownFieldType name => "unknown field type: " ++ name
  | invalidFieldName entity diagnostic =>
    "entity " ++ ticked entity ++ ": " ++ diagnostic.display
  | invalidSetting fault => "invalid parameter: " ++ fault.message
  | invalidIndexName fault => "invalid parameter: " ++ fault.message
  | conversion entity property value reason =>
    "cannot convert " ++ path entity property ++ " value " ++ value ++ ": " ++ reason.message
  | missingArgument entity property => "missing value for " ++ path entity property
  | unknownProperty entity property =>
    "entity " ++ ticked entity ++ " has no property " ++ ticked property
  | readOnlyProperty entity property => "property " ++ path entity property ++ " has no setter"
  | unexpectedType expected found =>
    "expected an instance of " ++ ticked expected ++ ", found " ++ ticked found
  | unresolvedExpression expression =>
    "cannot resolve index name expression " ++ ticked ("#\x7b" ++ expression ++ "\x7d")
  | missingIndexName entity =>
    "entity " ++ ticked entity ++ " is not a document and has no index name"
  | malformedJson => "malformed JSON"

/-- Whether the error arises from the configuration. -/
def isConfiguration : Error → Bool
  | invalidConfiguration .. | missingDatePattern .. | invalidPattern .. | duplicateRole ..
  | duplicateFieldName .. | unsupportedFieldType .. | unknownFieldType .. | invalidFieldName ..
  | invalidSetting .. | invalidIndexName .. => true
  | _ => false

end Error

end ObjectDocument
