import Mathlib.Data.List.Nodup
import ObjectDocument.Proofs.Conversion.Embedding
import ObjectDocument.Proofs.Descriptor.WellFormed
import ObjectDocument.Proofs.Update

/-!
# Metadata of documents

The identifier, version and sequence token of a document can get into an object in two ways: together
with the values of the body when the object is made, or one after another when it is there. Main
statement: both ways give the same object, and either fails when the other does.
-/

namespace ObjectDocument

/-- The document without the metadata that objects have members for. -/
def SearchDocument.bare (doc : SearchDocument) : SearchDocument :=
  { doc with id := none, version := none, seqNo := none, primaryTerm := none }

/-- Whether objects can be given their identifier, version and sequence token when they are there. An
immutable object can, as it is made anew. -/
def EntityType.Populatable (type : EntityType) (d : Descriptor) : Prop :=
  type.immutable = false → ∀ p ∈ d.properties,
    p.role = .id ∨ p.role = .version ∨ p.role = .sequenceToken →
      ∀ m ∈ type.members, m.name = p.name → m.settable = true

namespace Conversion

/-- Put the identifier of a document into an object, if the document has one. -/
def populateIdOf (family : Family) (ref : EntityRef) (doc : SearchDocument) (x : Instance) :
    Lookup Instance :=
  match doc.id with
  | some id => populateId family ref x id
  | none => pure x

/-- Put the version of a document into an object, if the document has one. -/
def populateVersionOf (family : Family) (ref : EntityRef) (doc : SearchDocument) (x : Instance) :
    Lookup Instance :=
  match doc.version with
  | some version => populateVersion family ref x version
  | none => pure x

/-- Put the sequence token of a document into an object, if the document has both of its parts. -/
def populateTokenOf (family : Family) (ref : EntityRef) (doc : SearchDocument) (x : Instance) :
    Lookup Instance :=
  match doc.seqNo, doc.primaryTerm with
  | some seqNo, some primaryTerm => populateToken family ref x seqNo primaryTerm
  | _, _ => pure x

/-- Put the metadata of a document into an object, one after another. -/
def populate (family : Family) (ref : EntityRef) (doc : SearchDocument) (x : Instance) :
    Lookup Instance := do
  let x ← populateIdOf family ref doc x
  let x ← populateVersionOf family ref doc x
  populateTokenOf family ref doc x

variable {family : Family} {describe : EntityRef → Except Error Descriptor} {ref : EntityRef}
  {d : Descriptor} {doc : SearchDocument} {vs : Entries Value} {x y : Instance}

/-! ## The metadata that an object has members for -/

/-- A value with the property that has a role, if there are both. -/
def partOf (d : Descriptor) (role : Role) (value : Option Value) : List (Property × Value) :=
  match d.withRole? role with
  | some p => value.toList.map fun v => (p, v)
  | none => []

/-- The value of the identifier, with its property. -/
def idPart (d : Descriptor) (doc : SearchDocument) : Except Error (List (Property × Value)) :=
  match d.id?, doc.id with
  | some p, some id => (idValue d.name p id).map fun v => [(p, v)]
  | _, _ => .ok []

/-- The value of the version, with its property. -/
def versionPart (d : Descriptor) (doc : SearchDocument) : List (Property × Value) :=
  partOf d .version (doc.version.map .long)

/-- The value of the sequence token, with its property. -/
def tokenPart (d : Descriptor) (doc : SearchDocument) : List (Property × Value) :=
  partOf d .sequenceToken (doc.token?.map .token)

/-- All values beside the body of a document that there are properties for. -/
def metadata (d : Descriptor) (doc : SearchDocument) : Except Error (List (Property × Value)) :=
  (idPart d doc).map fun part => part ++ (versionPart d doc ++ tokenPart d doc)

/-- The values of properties by their names. -/
def byName (part : List (Property × Value)) : Entries Value :=
  part.map fun (p, v) => (p.name, v)

theorem partOf_none (d : Descriptor) (role : Role) : partOf d role none = [] := by
  rw [partOf]
  cases d.withRole? role <;> rfl

/-- A value that there is comes with a property of the descriptor that has the role. -/
theorem partOf_roles {definition : EntityDefinition} (hd : d.Describes definition) {role : Role}
    (hrole : role ≠ .plain) (value : Option Value) :
    ((partOf d role value).map (·.1.role)).Sublist [role] ∧
      ∀ e ∈ partOf d role value, e.1 ∈ d.properties := by
  rw [partOf]
  split
  next p hp =>
    obtain ⟨hmem, hrole⟩ := (hd.withRole?_eq_some_iff hrole).mp hp
    cases value with
    | none => simp
    | some v => simp [hmem, hrole]
  next => simp

theorem idPart_eq_partOf {part : List (Property × Value)} (h : idPart d doc = .ok part) :
    ∃ value, part = partOf d .id value := by
  rw [idPart, Descriptor.id?] at h
  split at h
  next p id hp _ =>
    obtain ⟨v, -, rfl⟩ := map_eq_ok_iff.mp h
    refine ⟨some v, ?_⟩
    rw [partOf, hp]
    rfl
  next =>
    cases h
    exact ⟨none, (partOf_none d .id).symm⟩

theorem metadata_roles {definition : EntityDefinition} (hd : d.Describes definition)
    {part : List (Property × Value)} (h : metadata d doc = .ok part) :
    (part.map (·.1.role)).Sublist [.id, .version, .sequenceToken] ∧
      ∀ e ∈ part, e.1 ∈ d.properties := by
  obtain ⟨ids, hids, rfl⟩ := map_eq_ok_iff.mp h
  obtain ⟨value, rfl⟩ := idPart_eq_partOf hids
  obtain ⟨hid, hidmem⟩ := partOf_roles hd (by simp : Role.id ≠ .plain) value
  obtain ⟨hversion, hversionmem⟩ :=
    partOf_roles hd (by simp : Role.version ≠ .plain) (doc.version.map .long)
  obtain ⟨htoken, htokenmem⟩ :=
    partOf_roles hd (by simp : Role.sequenceToken ≠ .plain) (doc.token?.map .token)
  constructor
  · rw [List.map_append, List.map_append]
    exact hid.append (hversion.append htoken)
  · intro e he
    rcases List.mem_append.mp he with he | he
    · exact hidmem e he
    · rcases List.mem_append.mp he with he | he
      · exact hversionmem e he
      · exact htokenmem e he

/-- Different roles are those of different properties, which have different names. -/
theorem nodup_byName {definition : EntityDefinition} (hd : d.Describes definition)
    {part : List (Property × Value)} (h : metadata d doc = .ok part) :
    (Entries.keys (byName part)).Nodup := by
  obtain ⟨hroles, hmem⟩ := metadata_roles hd h
  have hnodup : (part.map (·.1.role)).Nodup := List.Nodup.sublist hroles (by simp)
  rw [Entries.keys, byName, List.map_map, List.Nodup, List.pairwise_map]
  refine (List.pairwise_map.mp hnodup).imp_of_mem fun {e f} he hf hne hname => hne ?_
  rw [hd.eq_of_name_eq (hmem e he) (hmem f hf) hname]

/-- The members that hold metadata can be replaced. -/
theorem replaceable_of_metadata {config : Config} {type : EntityType}
    {part : List (Property × Value)} (hd : Descriptor.build config type.definition = .ok d)
    (hpopulatable : type.Populatable d) (h : metadata d doc = .ok part) {name : String}
    (hname : name ∈ Entries.keys (byName part)) :
    ∃ m, m.name = name ∧ type.Replaceable m := by
  obtain ⟨hroles, hmem⟩ := metadata_roles (Descriptor.describes_of_build hd) h
  rw [Entries.keys, byName, List.map_map] at hname
  obtain ⟨e, he, rfl⟩ := List.mem_map.mp hname
  have hp := hmem e he
  have hrole : e.1.role = .id ∨ e.1.role = .version ∨ e.1.role = .sequenceToken := by
    have hmemrole := hroles.subset (List.mem_map_of_mem he)
    simpa using hmemrole
  obtain ⟨c, -, hrepresents⟩ := Descriptor.represents_of_mem hd hp
  obtain ⟨m, hm, hdescribed⟩ :=
    exists_mem_of_forall₂ (Descriptor.describes_of_build hd).members hp
  have hkind : e.1.kind = .string ∨ e.1.kind = .long ∨ e.1.kind = .integer ∨
      e.1.kind = .sequenceToken := by
    rcases hrole with hrole | hrole | hrole
    · rcases hrepresents.id_kind hrole with h | h | h <;> simp [h]
    · rcases hrepresents.version_kind hrole with h | h <;> simp [h]
    · simp [hrepresents.token_kind hrole]
  rw [hdescribed.kind_eq] at hkind
  refine ⟨m, hdescribed.name_eq.symm, hm, ?_, ?_, ?_⟩
  · intro hmutable
    exact hpopulatable hmutable e.1 hp hrole m hm hdescribed.name_eq.symm
  · rcases hkind with h | h | h | h <;> rw [h] <;> rfl
  · rcases hkind with h | h | h | h <;> simp [h]

/-! ## Reading -/

theorem withId_eq (d : Descriptor) (doc : SearchDocument) (vs : Entries Value) :
    withId d doc vs = (idPart d doc).map fun part => Entries.setAll vs (byName part) := by
  rw [withId, idPart]
  cases d.id? with
  | none => rfl
  | some p =>
      cases doc.id with
      | none => rfl
      | some id =>
          dsimp only
          cases idValue d.name p id with
          | ok v => rfl
          | error e => rfl

theorem withVersion_eq (d : Descriptor) (doc : SearchDocument) (vs : Entries Value) :
    withVersion d doc vs = Entries.setAll vs (byName (versionPart d doc)) := by
  rw [withVersion, versionPart, partOf, Descriptor.version?]
  cases d.withRole? .version with
  | none => rfl
  | some p => cases doc.version <;> rfl

theorem withToken_eq (d : Descriptor) (doc : SearchDocument) (vs : Entries Value) :
    withToken d doc vs = Entries.setAll vs (byName (tokenPart d doc)) := by
  rw [withToken, tokenPart, partOf, Descriptor.token?]
  cases d.withRole? .sequenceToken with
  | none => rfl
  | some p => cases doc.token? <;> rfl

/-- A document is read by making an object of the values of its body and those beside it. -/
theorem eval_read (hd : describe ref = .ok d) : (read family ref doc).eval describe = (do
    let vs ← (readProperties d.name (entryReaders family doc.source.entries) d.properties).eval
      describe
    let part ← metadata d doc
    (family.type ref).instantiate (Entries.setAll (Entries.merge vs) (byName part))) := by
  rw [read, Lookup.eval_ask_ok hd, Lookup.eval_bind]
  refine congrArg _ (funext fun vs => ?_)
  rw [withId_eq, metadata]
  cases idPart d doc with
  | error e => rfl
  | ok part =>
      simp only [Except.map, bind, Except.bind, Lookup.eval_done, withVersion_eq, withToken_eq,
        byName, List.map_append, Entries.setAll_append]

theorem metadata_bare (d : Descriptor) (doc : SearchDocument) : metadata d doc.bare = .ok [] := by
  simp [metadata, idPart, versionPart, tokenPart, partOf_none, SearchDocument.bare,
    SearchDocument.token?, Except.map]

/-! ## Populating -/

theorem eval_populateIdOf (hd : describe ref = .ok d) :
    (populateIdOf family ref doc x).eval describe =
      idPart d doc >>= fun part => (family.type ref).withValues x (byName part) := by
  rw [populateIdOf, idPart]
  cases doc.id with
  | none => cases d.id? <;> rfl
  | some id =>
      dsimp only
      rw [populateId, Lookup.eval_ask_ok hd]
      cases d.id? with
      | none => rfl
      | some p =>
          dsimp only
          cases idValue d.name p id with
          | error e => rfl
          | ok v => exact (EntityType.withValues_singleton ..).symm

theorem eval_populateVersionOf (hd : describe ref = .ok d) :
    (populateVersionOf family ref doc x).eval describe =
      (family.type ref).withValues x (byName (versionPart d doc)) := by
  rw [populateVersionOf, versionPart]
  cases doc.version with
  | none =>
      rw [Option.map_none, partOf_none]
      rfl
  | some version =>
      dsimp only
      rw [populateVersion, Lookup.eval_ask_ok hd, Descriptor.version?, partOf]
      cases d.withRole? .version with
      | none => rfl
      | some p => exact (EntityType.withValues_singleton ..).symm

theorem token?_eq_assigned? {seqNo primaryTerm : Int64} (hseqNo : doc.seqNo = some seqNo)
    (hterm : doc.primaryTerm = some primaryTerm) :
    doc.token? = SequenceToken.assigned? seqNo primaryTerm := by
  rw [SearchDocument.token?, hseqNo, hterm]
  rfl

theorem eval_populateTokenOf (hd : describe ref = .ok d) :
    (populateTokenOf family ref doc x).eval describe =
      (family.type ref).withValues x (byName (tokenPart d doc)) := by
  rw [populateTokenOf, tokenPart]
  split
  next seqNo primaryTerm hseqNo hterm =>
    rw [populateToken, Lookup.eval_ask_ok hd, token?_eq_assigned? hseqNo hterm,
      Descriptor.token?, partOf]
    cases d.withRole? .sequenceToken with
    | none => rfl
    | some p =>
        cases SequenceToken.assigned? seqNo primaryTerm with
        | none => rfl
        | some t => exact (EntityType.withValues_singleton ..).symm
  next hmissing =>
    have htoken : doc.token? = none := by
      rw [SearchDocument.token?]
      cases hseqNo : doc.seqNo with
      | none => rfl
      | some seqNo =>
          cases hterm : doc.primaryTerm with
          | none => rfl
          | some primaryTerm => exact absurd hterm (hmissing seqNo primaryTerm hseqNo)
    rw [htoken, Option.map_none, partOf_none]
    rfl

/-- An object is populated by changing its members to the values beside the document. -/
theorem eval_populate (hd : describe ref = .ok d) : (populate family ref doc x).eval describe =
    metadata d doc >>= fun part => (family.type ref).withValues x (byName part) := by
  rw [populate, Lookup.eval_bind, eval_populateIdOf hd, metadata]
  simp only [Lookup.eval_bind, eval_populateVersionOf hd, eval_populateTokenOf hd]
  cases idPart d doc with
  | error e => rfl
  | ok part =>
      change _ = (family.type ref).withValues x
        (byName (part ++ (versionPart d doc ++ tokenPart d doc)))
      simp only [byName, List.map_append, EntityType.withValues_append]
      rfl

/-- Reading a document with its metadata gives an object exactly if populating what its body alone is
read as does, and then the same one. A sequence token that is not assigned is ignored both ways. The
object must have its metadata settable if it is mutable; if it is immutable, no `Float32` of the body
may change when it is widened to a double and rounded back, as the object is made anew. -/
theorem read_eq_ok_iff_populate (c : Context) {ref : EntityRef} {d : Descriptor}
    (hd : c.describe ref = .ok d) (hpopulatable : (c.family.type ref).Populatable d)
    {doc : SearchDocument} {y : Instance}
    (hfloats : (c.family.type ref).immutable = true → ∀ e ∈ y, e.KeepsFloats)
    (hbody : ((read c.family ref doc.bare).run c).1 = .ok y) :
    (∀ x, ((read c.family ref doc).run c).1 = .ok x ↔
      ((populate c.family ref doc y).run ((read c.family ref doc.bare).run c).2).1 = .ok x) ∧
    ∀ seqNo primaryTerm, doc.seqNo = some seqNo → doc.primaryTerm = some primaryTerm →
      ¬(0 ≤ seqNo.toInt ∧ 1 ≤ primaryTerm.toInt) →
        ((read c.family ref doc).run c).1 =
          ((read c.family ref { doc with seqNo := none, primaryTerm := none }).run c).1 ∧
        ∀ x, ((populateToken c.family ref x seqNo primaryTerm).run c).1 = .ok x := by
  have hdescribes := Descriptor.describes_of_build hd
  simp only [Lookup.run_fst, (Lookup.run_snd _ c).2] at hbody ⊢
  constructor
  · intro x
    rw [eval_read hd, metadata_bare] at hbody
    obtain ⟨vs, hvs, hy⟩ := bind_eq_ok.mp hbody
    have hkeys := Entries.nodup_merge vs
    have hstable := EntityType.stable_of_keepsFloats hdescribes.nodup_members hkeys hy hfloats
    have hsource : doc.bare.source = doc.source := rfl
    rw [hsource] at hvs
    rw [eval_read hd, eval_populate hd, hvs]
    cases hmetadata : metadata d doc with
    | error e => simp [bind, Except.bind]
    | ok part =>
        exact (EntityType.withValues_eq_ok_iff hdescribes.nodup_members hkeys hy hstable
          (nodup_byName hdescribes hmetadata)
          (fun name => replaceable_of_metadata hd hpopulatable hmetadata)).symm
  · intro seqNo primaryTerm hseqNo hterm hunassigned
    have hassigned : SequenceToken.assigned? seqNo primaryTerm = none := if_neg hunassigned
    constructor
    · have htoken : doc.token? = none := (token?_eq_assigned? hseqNo hterm).trans hassigned
      rw [eval_read hd, eval_read hd]
      have hmetadata : metadata d doc =
          metadata d { doc with seqNo := none, primaryTerm := none } := by
        have hpart : tokenPart d { doc with seqNo := none, primaryTerm := none } = [] :=
          partOf_none d .sequenceToken
        have hpart' : tokenPart d doc = [] := by
          rw [tokenPart, htoken, Option.map_none, partOf_none]
        rw [metadata, metadata, hpart, hpart']
        rfl
      rw [hmetadata]
    · intro x
      rw [populateToken, Lookup.eval_ask_ok hd, hassigned]
      cases d.token? <;> rfl

end Conversion

/-! ## A note and its metadata -/

namespace Library

/-- The reference of notes. -/
def noteRef : EntityRef := ⟨2, "Note"⟩

/-- Notes are immutable and hold all metadata of their documents. -/
def note : EntityType where
  ref := noteRef
  name := "Note"
  immutable := true
  members := [
    { name := "id", shape := .option (.base .string), initial := .absent },
    { name := "text", shape := .base .string, initial := .string "" },
    { name := "version", shape := .option (.base .long), initial := .absent
      role := some .version },
    { name := "token", shape := .option (.base .token), initial := .absent }]

/-- Notes under the default configuration. -/
def notes : Context where
  config := {}
  family := ⟨[note]⟩

/-- A note as it is found. -/
def foundNote : SearchDocument where
  id := some "n-1"
  version := some 3
  seqNo := some 5
  primaryTerm := some 1
  source := .ofEntries [("text", .string "Read me")]

/-- The note that is found. -/
def readNote : Instance :=
  [.present (.string "n-1"), .string "Read me", .present (.long 3), .present (.token ⟨5, 1⟩)]

end Library

namespace Conversion

open Library

theorem read_eq_ok_iff_populate_note :
    ((read notes.family noteRef foundNote).run notes).1 = .ok readNote ∧
    ((populate notes.family noteRef foundNote [.absent, .string "Read me", .absent, .absent]).run
      ((read notes.family noteRef foundNote.bare).run notes).2).1 = .ok readNote := by
  obtain ⟨d, hd⟩ : ∃ d, notes.describe noteRef = .ok d := ⟨_, rfl⟩
  have himmutable : (notes.family.type noteRef).immutable = true := rfl
  have hpopulatable : (notes.family.type noteRef).Populatable d := by
    intro hmutable
    rw [himmutable] at hmutable
    cases hmutable
  have hbody : ((read notes.family noteRef foundNote.bare).run notes).1 =
      .ok [.absent, .string "Read me", .absent, .absent] := rfl
  have hread : ((read notes.family noteRef foundNote).run notes).1 = .ok readNote := rfl
  have hboth := (read_eq_ok_iff_populate notes hd hpopulatable
    (by simp [Datum.KeepsFloats]) hbody).1 readNote
  exact ⟨hread, hboth.mp hread⟩

end Conversion

end ObjectDocument
