import ObjectDocument.Json.Decode
import ObjectDocument.Json.Selection

/-!
# Index settings

The settings with which an index is created, and how the engine checks versions that the
application supplies.
-/

namespace ObjectDocument

/-- How the engine checks version numbers. -/
inductive VersionType where
  | internal
  | external
  | externalGte
deriving DecidableEq, Repr

namespace VersionType

def name : VersionType → String
  | internal => "internal"
  | external => "external"
  | externalGte => "external_gte"

def ofName? (name : String) : Option VersionType :=
  [internal, external, externalGte].find? fun t => t.name = name

def decode? (j : Json) : Option VersionType :=
  j.name?.bind ofName?

end VersionType

structure Settings where
  shards : Nat := 1
  replicas : Nat := 1
  refreshInterval : String := "1s"
  storeType : String := "fs"
  /-- Leave all settings to the server. -/
  useServerConfiguration : Bool := false
deriving DecidableEq, Repr

namespace Settings

/-- The body of the request that creates the index; there is none if the server decides. -/
def toJson? (s : Settings) : Option Json :=
  if s.useServerConfiguration then none
  else some (.object [("index", .object [
    ("number_of_shards", .int s.shards),
    ("number_of_replicas", .int s.replicas),
    ("refresh_interval", .string s.refreshInterval),
    ("store", .object [("type", .string s.storeType)])])])

def selection : Json.Selection :=
  .ofNames ["shards", "replicas", "refresh_interval", "index_store_type",
    "use_server_configuration"]

def decode? (j : Json) : Option Settings := do
  match ← j.members? selection.names with
  | [shards, replicas, refreshInterval, storeType, useServerConfiguration] =>
    let base : Settings := {}
    return {
      shards := ← Json.orDefault Json.nat32? base.shards shards
      replicas := ← Json.orDefault Json.nat32? base.replicas replicas
      refreshInterval := ← Json.orDefault Json.string? base.refreshInterval refreshInterval
      storeType := ← Json.orDefault Json.string? base.storeType storeType
      useServerConfiguration :=
        ← Json.orDefault Json.bool? base.useServerConfiguration useServerConfiguration }
  | _ => none

end Settings

end ObjectDocument
