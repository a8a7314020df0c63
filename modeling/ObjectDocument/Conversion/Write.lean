import ObjectDocument.Document.Basic
import ObjectDocument.Handle
import ObjectDocument.Lookup

/-!
# Writing documents

The writable properties of an object are written in order of declaration. A property without a value
is left out unless its field stores `null`; an embedded object is written by the same rules.
-/

namespace ObjectDocument

namespace Conversion

/-- The name of a double that JSON has no number for. -/
def nonFiniteName (x : Float) : String :=
  if x.isNaN then "NaN" else if x < 0 then "-inf" else "inf"

/-- The error of a value of a property. -/
def fault (entity : String) (p : Property) (v : String) (reason : Mismatch) : Error :=
  .conversion entity p.name v reason

/-- Write a single value, with the converter of its property if there is one. -/
def writeLeaf (entity : String) (p : Property) (v : Value) : Except Error Json :=
  let converted : Except Error Json :=
    match p.converter with
    | none => .ok v.toJson
    | some c =>
      match c.toConverter.write v with
      | .ok s => .ok (.string s)
      | .error reason => .error (fault entity p v.display reason)
  match v with
  | .double x =>
    if x.isFinite then converted
    else .error (fault entity p v.display ⟨.finiteNumber, nonFiniteName x⟩)
  | _ => converted

/-- How a value is written. -/
structure Writer where
  /-- Whether the value stands for absence. -/
  isNull : Bool
  /-- Write the value as one of a property of an entity. -/
  write : String → Property → Lookup Json

namespace Writer

def null : Writer where
  isNull := true
  write _ _ := pure .null

def leaf (v : Value) : Writer where
  isNull := v.isNull
  write entity p := .done (writeLeaf entity p v)

/-- The writer of the value of a property, among those of an object in order of declaration. -/
def atPosition (ws : List Writer) (p : Property) : Writer × List Writer :=
  ((ws[p.position]?).getD null, ws)

/-- The writer of the value of a property, taken out of those of an embedded object by name. -/
def underName (ws : Entries Writer) (p : Property) : Writer × Entries Writer :=
  ((Entries.get? p.name ws).getD null, Entries.erase p.name ws)

end Writer

def writeAll (entity : String) (p : Property) : List Writer → Lookup (List Json)
  | [] => pure []
  | w :: ws => do
    let j ← w.write entity p
    let js ← writeAll entity p ws
    pure (j :: js)

/-- What an embedded object has in its members, by their names. The object has to be of the type that
is asked for, whose descriptor is looked up once it is known to be. -/
def embeddedMembers {α : Type} (family : Family) (expected : EntityRef) (e : Embedded α) :
    Lookup (Entries α) :=
  match e.downcast expected with
  | .ok fields => .ask expected fun _ => pure ((family.type expected).named fields)
  | .error reason => .fail reason

/-- An object behind the reference of its own type passes the check of its type. -/
theorem embeddedMembers_of {α : Type} (family : Family) (type : EntityRef) (fields : List α) :
    embeddedMembers family type (.of type fields) =
      .ask type fun _ => pure ((family.type type).named fields) := by
  rw [embeddedMembers, Embedded.downcast_of]

/-- Write the writable properties in order of declaration. The writer of each comes from a store,
which may lose it. -/
def writeProperties {σ : Type} (take : σ → Property → Writer × σ) (entity : String) :
    σ → List Property → Lookup (Entries Json)
  | _, [] => pure []
  | store, p :: ps =>
    if p.isWritable then
      let (w, store) := take store p
      if w.isNull && !p.storesNull then writeProperties take entity store ps
      else do
        let j ← w.write entity p
        let es ← writeProperties take entity store ps
        pure ((p.fieldName, j) :: es)
    else writeProperties take entity store ps

mutual

/-- The writer of a datum. An embedded object is written by the descriptor of the type that its
reference names, and its values are those that this type gives by name. -/
def writer (family : Family) : Datum → Writer
  | .absent => .null
  | .present d => writer family d
  | .vec items =>
    let ws := writers family items
    { isNull := false
      write := fun entity p => do
        let js ← writeAll entity p ws
        pure (.array js) }
  | .entity type fields =>
    let object := Embedded.of type (writers family fields)
    { isNull := false
      write := fun _ _ => .ask object.reference fun d => do
        let named ← embeddedMembers family object.reference object
        let es ← writeProperties Writer.underName d.name named d.properties
        pure (Document.ofEntries es).toJson }
  | .bool b => .leaf (.bool b)
  | .long n => .leaf (.long n)
  | .integer n => .leaf (.long n.toInt64)
  | .double x => .leaf (.double x)
  | .float x => .leaf (.double x.toFloat)
  | .string s => .leaf (.string s)
  | .date d => .leaf (.date d)
  | .dateTime t => .leaf (.dateTime t)
  | .instant t => .leaf (.instant t)
  | .join j => .leaf (.join j)
  | .token t => .leaf (.token t)
  | .json j => .leaf (.json j)

def writers (family : Family) : List Datum → List Writer
  | [] => []
  | d :: ds => writer family d :: writers family ds

end

/-- Write an object by the descriptor of its type. -/
def writeObject (family : Family) (d : Descriptor) (x : Instance) : Lookup Document := do
  let es ← writeProperties Writer.atPosition d.name (writers family x) d.properties
  pure (Document.ofEntries es)

def write (family : Family) (type : EntityRef) (x : Instance) : Lookup Document :=
  .ask type fun d => writeObject family d x

end Conversion

end ObjectDocument
