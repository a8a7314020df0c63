import ObjectDocument.Document.Basic
import ObjectDocument.Json.Decode
import ObjectDocument.Value

/-!
# Search documents

A document as the engine returns it: the body, with the index, identifier, version and other
metadata that travel beside it.
-/

namespace ObjectDocument

/-- A document with its metadata. -/
structure SearchDocument where
  index : Option String := none
  id : Option String := none
  version : Option Int64 := none
  seqNo : Option Int64 := none
  primaryTerm : Option Int64 := none
  score : Option Float := none
  sort : List Json := []
  routing : Option String := none
  source : Document := .empty

namespace SearchDocument

def decode? (j : Json) : Option SearchDocument := do
  match ← j.members? ["_index", "_id", "_version", "_seq_no", "_primary_term", "_score", "sort",
      "_routing", "_source"] with
  | [index, id, version, seqNo, primaryTerm, score, sort, routing, source] =>
    return {
      index := ← Json.optional Json.string? index
      id := ← Json.optional Json.string? id
      version := ← Json.optional Json.int64? version
      seqNo := ← Json.optional Json.int64? seqNo
      primaryTerm := ← Json.optional Json.int64? primaryTerm
      score := ← Json.optional Json.float? score
      sort := ← Json.orDefault (Json.list? Json.any?) [] sort
      routing := ← Json.optional Json.string? routing
      source := ← Json.orDefault Document.ofJson? .empty source }
  | _ => none

/-- An entry of an object, if it has a value. -/
def entry {α : Type} (key : String) (toJson : α → Json) : Option α → Entries Json
  | some a => [(key, toJson a)]
  | none => []

def int64Json (n : Int64) : Json :=
  .int n.toInt

/-- The JSON form; what is missing is left out. -/
def toJson (d : SearchDocument) : Json :=
  .object <|
    entry "_index" .string d.index ++
    entry "_id" .string d.id ++
    entry "_version" int64Json d.version ++
    entry "_seq_no" int64Json d.seqNo ++
    entry "_primary_term" int64Json d.primaryTerm ++
    entry "_score" Value.doubleJson d.score ++
    (if d.sort.isEmpty then [] else [("sort", .array d.sort)]) ++
    entry "_routing" .string d.routing ++
    [("_source", d.source.toJson)]

/-- The sequence token, if the engine reports one and it is assigned. -/
def token? (d : SearchDocument) : Option SequenceToken := do
  SequenceToken.assigned? (← d.seqNo) (← d.primaryTerm)

end SearchDocument

end ObjectDocument
