import ObjectDocument.Conversion.Read

/-!
# Index requests and metadata

The request that writes an object to its index, and the operations that put the metadata of a
finished write back into the object.
-/

namespace ObjectDocument

structure IndexRequest where
  index : String
  id : Option String
  version : Option Int64 := none
  versionType : Option VersionType := none
  ifSeqNo : Option Int64 := none
  ifPrimaryTerm : Option Int64 := none
  routing : Option String := none
  source : Document

/-- The JSON form of a request; what is missing is left out. -/
def IndexRequest.toJson (r : IndexRequest) : Json :=
  .object <|
    [("index", .object [("name", .string r.index)])] ++
    SearchDocument.entry "id" .string r.id ++
    SearchDocument.entry "version" SearchDocument.int64Json r.version ++
    SearchDocument.entry "version_type" (fun t => .string t.name) r.versionType ++
    SearchDocument.entry "if_seq_no" SearchDocument.int64Json r.ifSeqNo ++
    SearchDocument.entry "if_primary_term" SearchDocument.int64Json r.ifPrimaryTerm ++
    SearchDocument.entry "routing" .string r.routing ++
    [("source", r.source.toJson)]

namespace Conversion

def valueOf (x : Instance) (p : Property) : Value :=
  match x[p.position]? with
  | some d => d.toValue
  | none => .null

/-- The text of an identifier's value, if there is one. -/
def idText (entity : String) (p : Property) : Value → Except Error (Option String)
  | .null => .ok none
  | .string id => .ok (some id)
  | .long n => .ok (some (Text.int64Text n))
  | v => .error (fault entity p v.display (v.mismatch .textOrIntegerIdentifier))

/-- The identifier of an object by the descriptor of its type. -/
def objectId (d : Descriptor) (x : Instance) : Except Error (Option String) :=
  match d.id? with
  | some p => idText d.name p (valueOf x p)
  | none => .ok none

def idOf (type : EntityRef) (x : Instance) : Lookup (Option String) :=
  .ask type fun d => .done (objectId d x)

/-- The values of an embedded object, which has to be of the type that is asked for. -/
def embeddedValues (family : Family) (expected found : EntityRef) (x : Instance) :
    Lookup (Entries Value) :=
  embeddedMembers family expected (.of found (x.map (·.toValue)))

def tokenOf (d : Descriptor) (x : Instance) : Option SequenceToken :=
  match d.token?.map (valueOf x) with
  | some (.token t) => some t
  | _ => none

def versionOf (d : Descriptor) (x : Instance) : Option Int64 :=
  match d.version?.map (valueOf x) with
  | some (.long n) => some n
  | _ => none

def parentOf (d : Descriptor) (x : Instance) : Option String :=
  match d.join?.map (valueOf x) with
  | some (.join j) => j.parent
  | _ => none

/-- The request for a document with its concurrency check: the sequence token if the object holds
one, and else the version. -/
def requestFor (d : Descriptor) (x : Instance) (index : String) (id : Option String)
    (source : Document) : IndexRequest :=
  let base : IndexRequest :=
    { index := index, id := id, routing := parentOf d x, source := source }
  match tokenOf d x, versionOf d x with
  | some t, _ => { base with ifSeqNo := some t.seqNo, ifPrimaryTerm := some t.primaryTerm }
  | none, some n => { base with version := some n, versionType := some d.versionType }
  | none, none => base

def indexRequest (family : Family) (type : EntityRef) (x : Instance)
    (resolver : String → Option String) : Lookup IndexRequest :=
  .ask type fun d => do
    let index ← .done (d.resolveIndex resolver)
    let id ← .done (objectId d x)
    let source ← writeObject family d x
    pure (requestFor d x index id source)

def populateId (family : Family) (type : EntityRef) (x : Instance) (id : String) :
    Lookup Instance :=
  .ask type fun d =>
    match d.id? with
    | none => pure x
    | some p =>
      match idValue d.name p id with
      | .ok v => .done ((family.type type).withValue x p.name v)
      | .error e => .fail e

def populateVersion (family : Family) (type : EntityRef) (x : Instance) (version : Int64) :
    Lookup Instance :=
  .ask type fun d =>
    match d.version? with
    | none => pure x
    | some p => .done ((family.type type).withValue x p.name (.long version))

/-- Give an object its sequence token. One that is not assigned leaves the object as it is. -/
def populateToken (family : Family) (type : EntityRef) (x : Instance)
    (seqNo primaryTerm : Int64) : Lookup Instance :=
  .ask type fun d =>
    match d.token?, SequenceToken.assigned? seqNo primaryTerm with
    | some p, some t => .done ((family.type type).withValue x p.name (.token t))
    | _, _ => pure x

end Conversion

end ObjectDocument
