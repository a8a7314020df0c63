/-!
# Kinds of values

The kind of a property says what its values mean, apart from how the search engine stores them.
-/

namespace ObjectDocument

/-- A reference to an entity type. The number identifies the type; the name is shown in messages. -/
structure EntityRef where
  id : Nat
  typeName : String
deriving DecidableEq, Repr

/-- The semantic type of a property. -/
inductive Kind where
  | boolean
  | integer
  | long
  | float
  | double
  | string
  | localDate
  | localDateTime
  /-- A point on the time line. -/
  | instant
  | json
  | entity (ref : EntityRef)
  | list (element : Kind)
  /-- The relation of a document to its parent or children. -/
  | join
  /-- The token of optimistic concurrency control. -/
  | sequenceToken
deriving DecidableEq, Repr

namespace Kind

/-- The kind of the elements, at the innermost level of a collection. -/
def element : Kind → Kind
  | list inner => element inner
  | kind => kind

def isCollection : Kind → Bool
  | list _ => true
  | _ => false

/-- Whether the elements are dates, date-times or instants. -/
def isTemporal (kind : Kind) : Bool :=
  match kind.element with
  | localDate | localDateTime | instant => true
  | _ => false

/-- The entity type of the elements, if they are embedded entities. -/
def entity? (kind : Kind) : Option EntityRef :=
  match kind.element with
  | entity ref => some ref
  | _ => none

def isIdentifier : Kind → Bool
  | string | long | integer => true
  | _ => false

def isVersion : Kind → Bool
  | long | integer => true
  | _ => false

def name : Kind → String
  | boolean => "boolean"
  | integer => "integer"
  | long => "long"
  | float => "float"
  | double => "double"
  | string => "string"
  | localDate => "local date"
  | localDateTime => "local date-time"
  | instant => "instant"
  | json => "json"
  | entity ref => "entity " ++ ref.typeName
  | list inner => "list of " ++ name inner
  | join => "join field"
  | sequenceToken => "seq_no/primary_term"

end Kind

end ObjectDocument
