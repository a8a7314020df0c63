import ObjectDocument.Definition
import ObjectDocument.Error
import ObjectDocument.Shape

/-!
# Entity types

An entity type describes the objects that documents are made of: the members of an object with their
shapes, and how an object comes about. A mutable object starts out new and has its members set one
after another; an immutable one is constructed from all values at once.
-/

namespace ObjectDocument

structure Member where
  name : String
  shape : Shape
  role : Option DeclaredRole := none
  access : Access := .readWrite
  field : FieldSpec := .inferred
  relations : List Relation := []
  /-- Whether the member of a mutable object can be set. -/
  settable : Bool := true
  /-- Whether the constructor of an immutable object takes the member. -/
  taken : Bool := true
  /-- What the member of a new object holds. -/
  initial : Datum

/-- A type of objects. -/
structure EntityType where
  ref : EntityRef
  name : String
  immutable : Bool := false
  document : Option DocumentDefinition := none
  members : List Member

/-- The fields of an object, in order of declaration. -/
abbrev Instance := List Datum

namespace EntityType

/-- The access of a member. One that a mutable object cannot set is not read either. -/
def accessOf (type : EntityType) (m : Member) : Access :=
  if !type.immutable && !m.settable && m.access = .readWrite then .writeOnly else m.access

/-- The definition of a type; the kinds of its properties come from their shapes. -/
def definition (type : EntityType) : EntityDefinition where
  name := type.name
  document := type.document
  properties := type.members.map fun m =>
    { name := m.name
      kind := m.shape.kind
      role := m.role
      access := type.accessOf m
      field := m.field
      relations := m.relations }

def fresh (type : EntityType) : Instance :=
  type.members.map (·.initial)

/-- What there is for each member of an object, by the names of the members. -/
def named {α : Type} (type : EntityType) (items : List α) : Entries α :=
  (type.members.zip items).map fun (m, a) => (m.name, a)

/-- The values of an object, by the names of its members. -/
def values (type : EntityType) (x : Instance) : Entries Value :=
  type.named (x.map (·.toValue))

/-- The datum of a member's value, or the error that it does not fit. -/
def convert (type : EntityType) (m : Member) (v : Value) : Except Error Datum :=
  match m.shape.ofValue v with
  | .ok d => .ok d
  | .error reason => .error (.conversion type.name m.name v.display reason)

/-- Set a member of an object. An unknown name and a member that cannot be set are passed over. -/
def set (type : EntityType) (x : Instance) (name : String) (v : Value) : Except Error Instance :=
  match type.members.findIdx? (fun m => m.name = name) with
  | none => .ok x
  | some i =>
    match type.members[i]? with
    | none => .ok x
    | some m => if m.settable then (type.convert m v).map (x.set i ·) else .ok x

/-- Set members of an object one after another. -/
def setAll (type : EntityType) : Instance → Entries Value → Except Error Instance
  | x, [] => .ok x
  | x, (name, v) :: vs => do
    let x ← type.set x name v
    setAll type x vs

/-- The argument of a constructor for a member. Without a value it is the datum for absence, if the
member may lack a value. -/
def argument (type : EntityType) (values : Entries Value) (m : Member) : Except Error Datum :=
  if !m.taken then .ok m.initial
  else
    match Entries.get? m.name values with
    | some v => if v.isNull then absent m else type.convert m v
    | none => absent m
where
  /-- The argument for a value that is not there. -/
  absent (m : Member) : Except Error Datum :=
    match m.shape.absent? with
    | some d => .ok d
    | none => .error (.missingArgument type.name m.name)

/-- Make an object from the values of its members. -/
def instantiate (type : EntityType) (values : Entries Value) : Except Error Instance :=
  if type.immutable then type.members.mapM (type.argument values)
  else type.setAll type.fresh values

/-- The object with one member changed; an immutable object is constructed anew. -/
def withValue (type : EntityType) (x : Instance) (name : String) (v : Value) :
    Except Error Instance :=
  match type.members.find? (fun m => m.name = name) with
  | none => .error (.unknownProperty type.name name)
  | some m =>
    if type.immutable then type.instantiate (Entries.set name v (type.values x))
    else if m.settable then type.set x name v
    else .error (.readOnlyProperty type.name name)

end EntityType

/-- A family of entity types that embed one another. -/
structure Family where
  types : List EntityType

/-- The type with a reference; outside the family it is a type without members. -/
def Family.type (family : Family) (ref : EntityRef) : EntityType :=
  (family.types.find? fun t => t.ref = ref).getD ⟨ref, ref.typeName, false, none, []⟩

end ObjectDocument
