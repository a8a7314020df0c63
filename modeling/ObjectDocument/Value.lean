import ObjectDocument.Calendar.Iso
import ObjectDocument.Json.Printer
import ObjectDocument.Kind

/-!
# Values

A domain object holds data of fixed types, and the library moves them around as values, whose type
is only known when they are looked at. Absence is a datum of its own for each optional field but a
single value, `null`.
-/

namespace ObjectDocument

/-- The place of a document in a parent/child relation. -/
structure Join where
  /-- The name of the document's side of the relation. -/
  name : String
  /-- The identifier of the parent, for a child. -/
  parent : Option String := none
deriving DecidableEq, Repr

/-- The sequence number and primary term that the engine gives to a write of a document. -/
structure SequenceToken where
  seqNo : Int64
  primaryTerm : Int64
deriving DecidableEq, Repr

/-- The token of a sequence number and primary term. The engine reports a negative sequence number
or a primary term below one where none is assigned. -/
def SequenceToken.assigned? (seqNo primaryTerm : Int64) : Option SequenceToken :=
  if 0 ≤ seqNo.toInt ∧ 1 ≤ primaryTerm.toInt then some ⟨seqNo, primaryTerm⟩ else none

/-- What a field of a domain object holds. -/
inductive Datum where
  | bool (b : Bool)
  | long (n : Int64)
  | integer (n : Int32)
  | double (x : Float)
  | float (x : Float32)
  | string (s : String)
  | date (d : Date)
  | dateTime (t : DateTime)
  /-- An instant, by its date-time in UTC. -/
  | instant (t : DateTime)
  | join (j : Join)
  | token (t : SequenceToken)
  | json (j : Json)
  | absent
  | present (d : Datum)
  | vec (items : List Datum)
  /-- An instance of an entity type, with its fields in order of declaration. -/
  | entity (type : EntityRef) (fields : List Datum)

instance : Inhabited Datum := ⟨.absent⟩

/-- A value whose type is known only when it is looked at. -/
inductive Value where
  | null
  | bool (b : Bool)
  | long (n : Int64)
  | double (x : Float)
  | string (s : String)
  | date (d : Date)
  | dateTime (t : DateTime)
  | instant (t : DateTime)
  | list (items : List Value)
  | embedded (type : EntityRef) (fields : List Datum)
  | join (j : Join)
  | token (t : SequenceToken)
  | json (j : Json)

instance : Inhabited Value := ⟨.null⟩

mutual

def Datum.toValue : Datum → Value
  | .bool b => .bool b
  | .long n => .long n
  | .integer n => .long n.toInt64
  | .double x => .double x
  | .float x => .double x.toFloat
  | .string s => .string s
  | .date d => .date d
  | .dateTime t => .dateTime t
  | .instant t => .instant t
  | .join j => .join j
  | .token t => .token t
  | .json j => .json j
  | .absent => .null
  | .present d => d.toValue
  | .vec items => .list (Datum.toValues items)
  | .entity type fields => .embedded type fields

def Datum.toValues : List Datum → List Value
  | [] => []
  | d :: ds => d.toValue :: Datum.toValues ds

end

def Join.toJson (j : Join) : Json :=
  match j.parent with
  | none => .object [("name", .string j.name)]
  | some parent => .object [("name", .string j.name), ("parent", .string parent)]

def SequenceToken.toJson (t : SequenceToken) : Json :=
  .object [("seq_no", .int t.seqNo.toInt), ("primary_term", .int t.primaryTerm.toInt)]

namespace Value

/-- Whether the value stands for absence. -/
def isNull : Value → Bool
  | null => true
  | _ => false

/-- The JSON form of a double: a number if it is finite. -/
def doubleJson (x : Float) : Json :=
  if x.isFinite then .number (.float x) else .null

mutual

/-- The JSON form of a value on its own. An embedded instance is shown by the name of its type. -/
def toJson : Value → Json
  | null => .null
  | bool b => .bool b
  | long n => .int n.toInt
  | double x => doubleJson x
  | string s => .string s
  | date d => .string (Calendar.printDate d)
  | dateTime t => .string (Calendar.printDateTime t)
  | instant t => .string (Calendar.printInstant t)
  | list items => .array (listJson items)
  | embedded type _ => .string ("<" ++ type.typeName ++ ">")
  | join j => j.toJson
  | token t => t.toJson
  | json j => j

def listJson : List Value → List Json
  | [] => []
  | v :: vs => toJson v :: listJson vs

end

/-- The text of a value in messages. -/
def display (v : Value) : String :=
  v.toJson.print

end Value

/-- What was looked for where a value did not fit. -/
inductive Expectation where
  | boolean
  | long
  | integer
  | double
  | string
  | localDate
  | localDateTime
  | instant
  | joinField
  | sequenceToken
  | jsonValue
  | list
  | embeddedEntity
  /-- An instance of the named type. -/
  | instanceOf (typeName : String)
  | number
  | finiteNumber
  | isoDate
  | isoDateTime
  | rfcInstant
  | object
  | integerIdentifier
  | textOrIntegerIdentifier
  | printableValue
  | dateText
  /-- What a converter of the caller looks for. -/
  | other (phrase : String)
deriving DecidableEq, Repr

def Expectation.phrase : Expectation → String
  | boolean => "a boolean"
  | long => "a long"
  | integer => "an integer"
  | double => "a double"
  | string => "a string"
  | localDate => "a local date"
  | localDateTime => "a local date-time"
  | instant => "an instant"
  | joinField => "a join field"
  | sequenceToken => "a seq_no/primary_term"
  | jsonValue => "a JSON value"
  | list => "a list"
  | embeddedEntity => "an embedded entity"
  | instanceOf typeName => typeName
  | number => "a number"
  | finiteNumber => "a finite number"
  | isoDate => "an ISO-8601 date"
  | isoDateTime => "an ISO-8601 date-time"
  | rfcInstant => "an RFC 3339 instant"
  | object => "an object"
  | integerIdentifier => "an integer identifier"
  | textOrIntegerIdentifier => "a string or integer identifier"
  | printableValue => "a value printable by the first date format"
  | dateText => "text matching a date format"
  | other phrase => phrase

/-- A value that does not have the form that is looked for. -/
structure Mismatch where
  expected : Expectation
  found : String
deriving DecidableEq, Repr

def Mismatch.message (m : Mismatch) : String :=
  "expected " ++ m.expected.phrase ++ ", found " ++ m.found

def Value.mismatch (v : Value) (expected : Expectation) : Mismatch :=
  ⟨expected, v.display⟩

end ObjectDocument
