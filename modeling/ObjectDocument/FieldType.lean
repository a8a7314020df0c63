import ObjectDocument.Kind

/-!
# Storage types

The types under which the search engine stores a field, and which kinds of values they hold.
-/

namespace ObjectDocument

/-- A storage type of the search engine. -/
inductive FieldType where
  /-- Inferred from the kind of the property. -/
  | auto
  | text
  | keyword
  | long
  | integer
  | short
  | byte
  | double
  | float
  | halfFloat
  | scaledFloat
  | date
  | dateNanos
  | boolean
  | binary
  | object
  | nested
  | ip
  | geoPoint
  | tokenCount
  | percolator
  | flattened
  | searchAsYouType
  | wildcard
  | join
deriving DecidableEq, Repr

namespace FieldType

def name : FieldType → String
  | auto => "auto"
  | text => "text"
  | keyword => "keyword"
  | long => "long"
  | integer => "integer"
  | short => "short"
  | byte => "byte"
  | double => "double"
  | float => "float"
  | halfFloat => "half_float"
  | scaledFloat => "scaled_float"
  | date => "date"
  | dateNanos => "date_nanos"
  | boolean => "boolean"
  | binary => "binary"
  | object => "object"
  | nested => "nested"
  | ip => "ip"
  | geoPoint => "geo_point"
  | tokenCount => "token_count"
  | percolator => "percolator"
  | flattened => "flattened"
  | searchAsYouType => "search_as_you_type"
  | wildcard => "wildcard"
  | join => "join"

def all : List FieldType :=
  [.auto, .text, .keyword, .long, .integer, .short, .byte, .double, .float, .halfFloat,
    .scaledFloat, .date, .dateNanos, .boolean, .binary, .object, .nested, .ip, .geoPoint,
    .tokenCount, .percolator, .flattened, .searchAsYouType, .wildcard, .join]

def ofName? (name : String) : Option FieldType :=
  all.find? fun t => t.name = name

def isDate : FieldType → Bool
  | date | dateNanos => true
  | _ => false

def isObject : FieldType → Bool
  | object | nested | flattened => true
  | _ => false

/-- The storage type of a kind, if its values are stored in document fields at all. -/
def infer? (kind : Kind) : Option FieldType :=
  match kind.element with
  | .boolean => some boolean
  | .integer => some integer
  | .long => some long
  | .float => some float
  | .double => some double
  | .string => some keyword
  | .localDate | .localDateTime | .instant => some date
  | .json | .entity _ => some object
  | .join => some join
  | .sequenceToken | .list _ => none

/-- Whether values of a kind can be stored under the type. -/
def accepts (type : FieldType) (kind : Kind) : Bool :=
  match type with
  | auto => true
  | object | nested =>
    match kind.element with
    | .entity _ | .json => true
    | _ => false
  | join =>
    match kind.element with
    | .join => true
    | _ => false
  | _ =>
    match kind.element with
    | .entity _ | .join | .sequenceToken => false
    | _ => true

end FieldType

end ObjectDocument
