import ObjectDocument.Json.Parser
import ObjectDocument.Json.Printer

/-!
# Documents

The body of a document: keys with JSON values, in the order in which the keys were first set.
-/

namespace ObjectDocument

/-- The body of a document. No key is repeated. -/
structure Document where
  entries : Entries Json
  nodup_keys : (Entries.keys entries).Nodup

namespace Document

def empty : Document :=
  ⟨[], List.nodup_nil⟩

instance : Inhabited Document := ⟨empty⟩

/-- The document of entries; a repeated key keeps its first place and its last value. -/
def ofEntries (es : Entries Json) : Document :=
  ⟨Entries.merge es, Entries.nodup_merge es⟩

def ofJson? : Json → Option Document
  | .object es => some (ofEntries es)
  | _ => none

def parse? (s : String) : Option Document :=
  (Json.parse? s).bind ofJson?

def toJson (d : Document) : Json :=
  .object d.entries

def print (d : Document) : String :=
  d.toJson.print

def keys (d : Document) : List String :=
  Entries.keys d.entries

def get? (d : Document) (key : String) : Option Json :=
  Entries.get? key d.entries

def contains (d : Document) (key : String) : Bool :=
  (d.get? key).isSome

/-- Set the value of a key, in place if it is present and at the end otherwise. -/
def insert (d : Document) (key : String) (j : Json) : Document :=
  ⟨Entries.set key j d.entries, Entries.nodup_set key j d.entries d.nodup_keys⟩

def erase (d : Document) (key : String) : Document :=
  ⟨Entries.erase key d.entries, Entries.nodup_erase key d.nodup_keys⟩

def size (d : Document) : Nat :=
  d.entries.length

def isEmpty (d : Document) : Bool :=
  d.entries.isEmpty

/-- Whether two documents have the same keys with equal values. Their order does not matter. -/
def same (d e : Document) : Bool :=
  d.toJson.same e.toJson

end Document

end ObjectDocument
