import ObjectDocument.Value

/-!
# Shapes of fields

The shape of a field is its type in the domain object: a base type, possibly optional or in a list.
A shape says which kind its property has, how a value becomes a datum of it, and which datum stands
for a value that is not there.
-/

namespace ObjectDocument

/-- A type of single values. -/
inductive Base where
  | bool
  | long
  | integer
  | double
  | float
  | string
  | date
  | dateTime
  | instant
  | join
  | token
  | json
  | entity (type : EntityRef)
deriving DecidableEq, Repr

/-- The type of a field. -/
inductive Shape where
  | base (b : Base)
  | option (inner : Shape)
  | vec (element : Shape)
deriving DecidableEq, Repr

namespace Base

def kind : Base → Kind
  | bool => .boolean
  | long => .long
  | integer => .integer
  | double => .double
  | float => .float
  | string => .string
  | date => .localDate
  | dateTime => .localDateTime
  | instant => .instant
  | join => .join
  | token => .sequenceToken
  | json => .json
  | entity type => .entity type

/-- The 32-bit integer with a given value, if it is in range. -/
def int32? (n : Int) : Option Int32 :=
  if Int32.minValue.toInt ≤ n ∧ n ≤ Int32.maxValue.toInt then some (Int32.ofInt n) else none

/-- The double of a value; a long is converted. -/
def doubleOf : Value → Except Mismatch Float
  | .double x => .ok x
  | .long n => .ok n.toFloat
  | v => .error (v.mismatch .double)

/-- The datum of a value, if the value is of this type. -/
def ofValue : Base → Value → Except Mismatch Datum
  | bool, .bool b => .ok (.bool b)
  | bool, v => .error (v.mismatch .boolean)
  | long, .long n => .ok (.long n)
  | long, v => .error (v.mismatch .long)
  | integer, .long n =>
    match int32? n.toInt with
    | some n => .ok (.integer n)
    | none => .error (Value.mismatch (.long n) .integer)
  | integer, v => .error (v.mismatch .integer)
  | double, v => (doubleOf v).map .double
  | float, v => (doubleOf v).map fun x => .float x.toFloat32
  | string, .string s => .ok (.string s)
  | string, v => .error (v.mismatch .string)
  | date, .date d => .ok (.date d)
  | date, v => .error (v.mismatch .localDate)
  | dateTime, .dateTime t => .ok (.dateTime t)
  | dateTime, v => .error (v.mismatch .localDateTime)
  | instant, .instant t => .ok (.instant t)
  | instant, v => .error (v.mismatch .instant)
  | join, .join j => .ok (.join j)
  | join, v => .error (v.mismatch .joinField)
  | token, .token t => .ok (.token t)
  | token, v => .error (v.mismatch .sequenceToken)
  | json, .json j => .ok (.json j)
  | json, v => .error (v.mismatch .jsonValue)
  | entity type, .embedded found fields =>
    if found = type then .ok (.entity type fields)
    else .error ⟨.instanceOf type.typeName, found.typeName⟩
  | entity _, v => .error (v.mismatch .embeddedEntity)

end Base

namespace Shape

def kind : Shape → Kind
  | base b => b.kind
  | option inner => kind inner
  | vec element => .list (kind element)

/-- The datum of a value, if the value is of this shape. An empty list stands for `null`. -/
def ofValue : Shape → Value → Except Mismatch Datum
  | base b, v => b.ofValue v
  | option _, .null => .ok .absent
  | option inner, v => (ofValue inner v).map .present
  | vec element, .list items => (items.mapM (ofValue element)).map .vec
  | vec _, .null => .ok (.vec [])
  | vec _, v => .error (v.mismatch .list)

/-- The datum of a property without a value, if it may lack one. -/
def absent? : Shape → Option Datum
  | base _ => none
  | option _ => some .absent
  | vec _ => some (.vec [])

/-- The datum of a new object, given the fields of new instances of the embedded types. -/
def blank (instances : EntityRef → List Datum) : Shape → Datum
  | base .bool => .bool false
  | base .long => .long 0
  | base .integer => .integer 0
  | base .double => .double 0
  | base .float => .float 0
  | base .string => .string ""
  | base .date => .date .epoch
  | base .dateTime => .dateTime (.atMidnight .epoch)
  | base .instant => .instant (.atMidnight .epoch)
  | base .join => .join ⟨"", none⟩
  | base .token => .token ⟨0, 0⟩
  | base .json => .json .null
  | base (.entity type) => .entity type (instances type)
  | option _ => .absent
  | vec _ => .vec []

end Shape

end ObjectDocument
