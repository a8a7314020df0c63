import ObjectDocument.Conversion.Write
import ObjectDocument.Document.Search

/-!
# Reading documents

The readable properties of a type are looked for in a document by their wire names, and the object
is made from the values found. The identifier, version and sequence token come from the metadata of
the document. Embedded objects are read by the same rules, without metadata.
-/

namespace ObjectDocument

namespace Conversion

/-- The integer of 64 bits that a JSON value is. -/
def readInteger (j : Json) : Except Mismatch Value :=
  match j.int64? with
  | some n => .ok (.long n)
  | none => .error ⟨.integer, j.print⟩

/-- The value of a text in a default form. -/
def readText (expected : Expectation) (read : String → Option Value) (j : Json) :
    Except Mismatch Value :=
  match j.string?.bind read with
  | some v => .ok v
  | none => .error ⟨expected, j.print⟩

/-- Decode a place in a relation: its name, or a record of name and parent. -/
def join? : Json → Option Join
  | .string name => some ⟨name, none⟩
  | j => do
    match ← j.members? ["name", "parent"] with
    | [name, parent] =>
      return ⟨← Json.required Json.string? name, ← Json.optional Json.string? parent⟩
    | _ => none

def token? (j : Json) : Option SequenceToken := do
  match ← j.members? ["seq_no", "primary_term"] with
  | [seqNo, primaryTerm] =>
    return ⟨← Json.required Json.int64? seqNo, ← Json.required Json.int64? primaryTerm⟩
  | _ => none

/-- The value of a kind that a JSON value stands for, without a converter. -/
def decode (kind : Kind) (j : Json) : Except Mismatch Value :=
  match kind with
  | .boolean =>
    match j.bool? with
    | some b => .ok (.bool b)
    | none => .error ⟨.boolean, j.print⟩
  | .integer | .long => readInteger j
  | .float | .double =>
    match j.float? with
    | some x => .ok (.double x)
    | none => .error ⟨.number, j.print⟩
  | .string => readText .string (fun s => some (.string s)) j
  | .localDate => readText .isoDate (fun s => (Calendar.readDate? s).map .date) j
  | .localDateTime => readText .isoDateTime (fun s => (Calendar.readDateTime? s).map .dateTime) j
  | .instant => readText .rfcInstant (fun s => (Calendar.readInstant? s).map .instant) j
  | .json => .ok (.json j)
  | .join =>
    match join? j with
    | some v => .ok (.join v)
    | none => .error ⟨.joinField, j.print⟩
  | .sequenceToken =>
    match token? j with
    | some v => .ok (.token v)
    | none => .error ⟨.sequenceToken, j.print⟩
  | .entity _ => .error ⟨.object, j.print⟩
  | .list _ => .error ⟨.list, j.print⟩

/-- Read a single JSON value, with the converter of its property if there is one and the value is a
text or a number. -/
def readLeaf (entity : String) (p : Property) (kind : Kind) (j : Json) : Except Error Value :=
  let value : Except Mismatch Value :=
    match p.converter, j with
    | some c, .string s => c.toConverter.read s
    | some c, .number n => c.toConverter.read (String.ofList (Json.printNumber n))
    | _, j => decode kind j
  match value with
  | .ok v => .ok v
  | .error reason => .error (fault entity p j.print reason)

/-- How a JSON value is read: for a property of an entity, at a kind. -/
abbrev Reader := String → Property → Kind → Lookup Value

/-- Read a value that is not a list; where a list is looked for it is the only element. -/
def readSingle (read : Kind → Lookup Value) : Kind → Lookup Value
  | .list element => do
    let v ← readSingle read element
    pure (.list [v])
  | kind => read kind

def readAll (entity : String) (p : Property) (kind : Kind) : List Reader → Lookup (List Value)
  | [] => pure []
  | r :: rs => do
    let v ← r entity p kind
    let vs ← readAll entity p kind rs
    pure (v :: vs)

/-- Read the readable properties that have an entry, in order of declaration. -/
def readProperties (entity : String) (entries : List (String × Reader)) :
    List Property → Lookup (Entries Value)
  | [] => pure []
  | p :: ps =>
    if p.isReadable then
      match Entries.get? p.fieldName entries with
      | some r => do
        let v ← r entity p p.kind
        let vs ← readProperties entity entries ps
        pure ((p.name, v) :: vs)
      | none => readProperties entity entries ps
    else readProperties entity entries ps

/-- Make an embedded object from the values of its members. -/
def instantiateEmbedded (family : Family) (type : EntityRef) (values : Entries Value) :
    Lookup Value :=
  .ask type fun _ => .done (((family.type type).instantiate values).map (.embedded type))

/-- Read an embedded object from the readers of its entries. -/
def readEmbedded (family : Family) (ref : EntityRef) (entries : List (String × Reader)) :
    Lookup Value :=
  .ask ref fun d => do
    let vs ← readProperties d.name entries d.properties
    instantiateEmbedded family ref (Entries.merge vs)

mutual

/-- The reader of a JSON value. -/
def reader (family : Family) : Json → Reader
  | .null => fun _ _ _ => pure .null
  | .array js =>
    let rs := readers family js
    fun entity p kind =>
      match kind with
      | .list element => do
        let vs ← readAll entity p element rs
        pure (.list vs)
      | kind => .done (readLeaf entity p kind (.array js))
  | .object es =>
    let rs := entryReaders family es
    fun entity p => readSingle fun kind =>
      match kind with
      | .entity ref => readEmbedded family ref rs
      | kind => .done (readLeaf entity p kind (.object es))
  | .bool b => fun entity p => readSingle fun kind => .done (readLeaf entity p kind (.bool b))
  | .number n => fun entity p => readSingle fun kind => .done (readLeaf entity p kind (.number n))
  | .string s => fun entity p => readSingle fun kind => .done (readLeaf entity p kind (.string s))

def readers (family : Family) : List Json → List Reader
  | [] => []
  | j :: js => reader family j :: readers family js

def entryReaders (family : Family) : List (String × Json) → List (String × Reader)
  | [] => []
  | (k, j) :: es => (k, reader family j) :: entryReaders family es

end

theorem get?_entryReaders (family : Family) (k : String) (es : Entries Json) :
    Entries.get? k (entryReaders family es) = (Entries.get? k es).map (reader family) := by
  induction es with
  | nil => rfl
  | cons entry es ih =>
      obtain ⟨key, j⟩ := entry
      rw [entryReaders, Entries.get?, Entries.get?, ih]
      split
      · rfl
      · rfl

/-- A descriptor is asked for before anything of an embedded object is read. -/
theorem reader_object (family : Family) (es : Entries Json) (entity : String) (p : Property)
    (ref : EntityRef) : reader family (.object es) entity p (.entity ref) =
      readEmbedded family ref (entryReaders family es) :=
  rfl

/-- The value of an identifier: an integer where the property holds one, and the text otherwise. -/
def idValue (entity : String) (p : Property) (id : String) : Except Error Value :=
  match p.kind with
  | .long | .integer =>
    match Text.parseInt64? id with
    | some n => .ok (.long n)
    | none => .error (fault entity p id ⟨.integerIdentifier, id⟩)
  | _ => .ok (.string id)

/-- The values with the identifier of the document, if it has one and the entity a property for
it. -/
def withId (d : Descriptor) (doc : SearchDocument) (vs : Entries Value) :
    Except Error (Entries Value) :=
  match d.id?, doc.id with
  | some p, some id => (idValue d.name p id).map fun v => Entries.set p.name v vs
  | _, _ => .ok vs

def withVersion (d : Descriptor) (doc : SearchDocument) (vs : Entries Value) : Entries Value :=
  match d.version?, doc.version with
  | some p, some n => Entries.set p.name (.long n) vs
  | _, _ => vs

def withToken (d : Descriptor) (doc : SearchDocument) (vs : Entries Value) : Entries Value :=
  match d.token?, doc.token? with
  | some p, some t => Entries.set p.name (.token t) vs
  | _, _ => vs

def read (family : Family) (type : EntityRef) (doc : SearchDocument) : Lookup Instance :=
  .ask type fun d => do
    let vs ← readProperties d.name (entryReaders family doc.source.entries) d.properties
    match withId d doc (Entries.merge vs) with
    | .ok vs => .done ((family.type type).instantiate (withToken d doc (withVersion d doc vs)))
    | .error e => .fail e

/-- An object with the metadata of the search that found it. -/
structure Hit where
  index : Option String
  id : Option String
  score : Option Float
  sort : List Json
  content : Instance

def readHit (family : Family) (type : EntityRef) (doc : SearchDocument) : Lookup Hit := do
  let x ← read family type doc
  pure ⟨doc.index, doc.id, doc.score, doc.sort, x⟩

end Conversion

end ObjectDocument
