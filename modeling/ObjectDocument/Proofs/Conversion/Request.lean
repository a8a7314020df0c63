import ObjectDocument.Conversion.Request
import ObjectDocument.Proofs.Datum
import ObjectDocument.Proofs.Descriptor.WellFormed
import ObjectDocument.Proofs.Index.Name

/-!
# Index requests

An index request is put together from the name of an index, the identifier of an object, its
document and a check for concurrent changes. Main statement: a request is made exactly where its
parts are, and the parts fit together.
-/

namespace ObjectDocument

namespace Descriptor

variable {config : Config} {definition : EntityDefinition} {d : Descriptor}

/-- The index of a descriptor is that of its definition. -/
theorem exists_document (h : build config definition = .ok d) {m : DocumentMetadata}
    (hm : d.document = some m) : ∃ e, definition.document = some e ∧
      IndexName.parse e.indexName = .ok m.indexName ∧ m.versionType = e.versionType := by
  obtain ⟨declared, document, -, -, -, -, hdocument, -, rfl⟩ := build_eq_ok_iff.mp h
  cases he : definition.document with
  | none =>
      rw [he] at hdocument
      cases hdocument
      cases hm
  | some e =>
      rw [he] at hdocument
      obtain ⟨m', hm', heq⟩ := map_eq_ok_iff.mp hdocument
      obtain rfl : m' = m := Option.some.inj (heq.trans hm)
      refine ⟨e, rfl, ?_⟩
      rw [buildDocument] at hm'
      cases hname : IndexName.parse e.indexName with
      | ok name =>
          rw [hname] at hm'
          cases hm'
          exact ⟨rfl, rfl⟩
      | error fault =>
          rw [hname] at hm'
          cases hm'

theorem resolveIndex_eq_ok_iff {resolver : String → Option String} {index : String} :
    d.resolveIndex resolver = .ok index ↔
      ∃ m, d.document = some m ∧ m.indexName.resolve resolver = .ok index := by
  rw [resolveIndex]
  cases d.document with
  | none => simp
  | some m =>
      simp only [Option.some.injEq, exists_eq_left']
      cases m.indexName.resolve resolver with
      | ok name => simp
      | error expression => simp

end Descriptor

namespace Conversion

/-- Whether an object holds a value in the property of a role. -/
def Held (d : Descriptor) (x : Instance) (role : Role) (v : Value) : Prop :=
  ∃ p ∈ d.properties, p.role = role ∧ valueOf x p = v

/-- How the parts of a request for an object fit together. -/
structure Consistent (c : Context) (ref : EntityRef) (d : Descriptor) (x : Instance)
    (resolver : String → Option String) (r : IndexRequest) : Prop where
  source_eq : ((write c.family ref x).run c).1 = .ok r.source
  id_eq : ((idOf ref x).run c).1 = .ok r.id
  index_eq : ∃ m, d.document = some m ∧ m.indexName.resolve resolver = .ok r.index
  version_iff : r.version.isSome ↔ r.versionType.isSome
  token_iff : r.ifSeqNo.isSome ↔ r.ifPrimaryTerm.isSome
  /-- There is one check at most. -/
  exclusive : r.version = none ∨ r.ifSeqNo = none
  versionType_eq : ∀ t, r.versionType = some t →
    ∃ e, (c.family.type ref).document = some e ∧ t = e.versionType
  routing_eq : ∀ parent, r.routing = some parent ↔
    ∃ place : Join, Held d x .join (.join place) ∧ place.parent = some parent

variable {family : Family} {config : Config} {describe : EntityRef → Except Error Descriptor}
  {ref : EntityRef} {type : EntityType} {d : Descriptor} {x : Instance}
  {resolver : String → Option String} {r : IndexRequest}

/-! ## Values of roles -/

/-- A property describes the member at its position. -/
theorem exists_member (hd : d.Describes type.definition) {p : Property} (hp : p ∈ d.properties) :
    ∃ m, type.members[p.position]? = some m ∧ m.DescribedBy type p := by
  obtain ⟨i, hi⟩ := List.getElem?_of_mem hp
  rw [hd.position_eq i p hi]
  exact exists_getElem?_of_forall₂ hd.members.flip hi

/-- A property has a field in an object, of the kind of the property. -/
theorem exists_field (hd : d.Describes type.definition)
    (hfits : Datum.FitsMembers family x type.members) {p : Property} (hp : p ∈ d.properties) :
    ∃ (s : Shape) (e : Datum), x[p.position]? = some e ∧ e.Fits family s ∧ s.kind = p.kind := by
  obtain ⟨m, hm, hdescribed⟩ := exists_member hd hp
  obtain ⟨e, hx⟩ := exists_getElem? (Datum.length_eq_of_fitsMembers hfits) hm
  exact ⟨m.shape, e, hx, Datum.fits_of_getElem? hfits hx hm, hdescribed.kind_eq.symm⟩

theorem map_valueOf_eq_some_iff (h : Descriptor.build config type.definition = .ok d)
    {role : Role} (hrole : role ≠ .plain) {v : Value} :
    (d.withRole? role).map (valueOf x) = some v ↔ Held d x role v := by
  rw [Option.map_eq_some_iff]
  simp only [(Descriptor.describes_of_build h).withRole?_eq_some_iff hrole, Held, and_assoc]

theorem tokenOf_eq_some_iff (h : Descriptor.build config type.definition = .ok d)
    {t : SequenceToken} : tokenOf d x = some t ↔ Held d x .sequenceToken (.token t) := by
  rw [← map_valueOf_eq_some_iff h (by simp), tokenOf, Descriptor.token?]
  cases (d.withRole? .sequenceToken).map (valueOf x) with
  | none => simp
  | some v => cases v <;> simp

theorem versionOf_eq_some_iff (h : Descriptor.build config type.definition = .ok d)
    {n : Int64} : versionOf d x = some n ↔ Held d x .version (.long n) := by
  rw [← map_valueOf_eq_some_iff h (by simp), versionOf, Descriptor.version?]
  cases (d.withRole? .version).map (valueOf x) with
  | none => simp
  | some v => cases v <;> simp

theorem parentOf_eq_some_iff (h : Descriptor.build config type.definition = .ok d)
    {parent : String} : parentOf d x = some parent ↔
      ∃ place : Join, Held d x .join (.join place) ∧ place.parent = some parent := by
  have hjoin : Role.join ≠ .plain := by simp
  simp only [← map_valueOf_eq_some_iff h hjoin]
  rw [parentOf, Descriptor.join?]
  cases (d.withRole? .join).map (valueOf x) with
  | none => simp
  | some v => cases v <;> simp

/-! ## Identifiers -/

/-- The value of a datum of an identifier's kind. -/
theorem toValue_of_isIdentifier : ∀ (e : Datum) (s : Shape), e.Fits family s →
    s.kind.isIdentifier = true →
      e.toValue = .null ∨ (∃ t, e.toValue = .string t) ∨ ∃ n, e.toValue = .long n
  | .absent, _, _, _ => .inl rfl
  | .present e, _, hfits, hkind => by
    obtain ⟨inner, rfl, hinner⟩ := hfits
    exact toValue_of_isIdentifier e inner hinner hkind
  | .vec _, _, hfits, hkind => by
    obtain ⟨element, rfl, -⟩ := hfits
    cases hkind
  | .entity _ _, _, hfits, hkind => by
    obtain ⟨rfl, -⟩ := hfits
    cases hkind
  | .string t, _, _, _ => .inr (.inl ⟨t, rfl⟩)
  | .long n, _, _, _ => .inr (.inr ⟨n, rfl⟩)
  | .integer n, _, _, _ => .inr (.inr ⟨n.toInt64, rfl⟩)
  | .bool _, _, hfits, hkind | .double _, _, hfits, hkind | .float _, _, hfits, hkind
  | .date _, _, hfits, hkind | .dateTime _, _, hfits, hkind | .instant _, _, hfits, hkind
  | .join _, _, hfits, hkind | .token _, _, hfits, hkind | .json _, _, hfits, hkind => by
    obtain ⟨b, hb, rfl⟩ := hfits
    cases hb
    cases hkind

/-- Every object says what its identifier is, if it has one. -/
theorem exists_objectId (h : Descriptor.build config type.definition = .ok d)
    (hfits : Datum.FitsMembers family x type.members) : ∃ id, objectId d x = .ok id := by
  rw [objectId]
  cases hid : d.id? with
  | none => exact ⟨none, rfl⟩
  | some p =>
      obtain ⟨hp, hrole⟩ :=
        ((Descriptor.describes_of_build h).withRole?_eq_some_iff (by simp)).mp hid
      obtain ⟨e, he, hrepresents⟩ := Descriptor.represents_of_mem h hp
      have hidentifier := Property.isIdentifier_iff.mpr (hrepresents.id_kind hrole)
      obtain ⟨s, e, hx, hfit, hkind⟩ := exists_field (Descriptor.describes_of_build h) hfits hp
      have hvalue : valueOf x p = e.toValue := by rw [valueOf, hx]
      rw [← hkind] at hidentifier
      dsimp only
      rw [hvalue]
      rcases toValue_of_isIdentifier e s hfit hidentifier with hv | ⟨t, hv⟩ | ⟨n, hv⟩
      · exact ⟨none, by rw [hv, idText]⟩
      · exact ⟨some t, by rw [hv, idText]⟩
      · exact ⟨some (Text.int64Text n), by rw [hv, idText]⟩

/-! ## Making a request -/

theorem eval_idOf (hd : describe ref = .ok d) : (idOf ref x).eval describe = objectId d x :=
  Lookup.eval_ask_ok hd _

/-- A request is made of an index name, an identifier and a document. -/
theorem eval_indexRequest_eq_ok_iff (hd : describe ref = .ok d) :
    (indexRequest family ref x resolver).eval describe = .ok r ↔ ∃ index id source,
      d.resolveIndex resolver = .ok index ∧ objectId d x = .ok id ∧
      (write family ref x).eval describe = .ok source ∧ r = requestFor d x index id source := by
  rw [indexRequest, Lookup.eval_ask_ok hd, write, Lookup.eval_ask_ok hd]
  simp only [Lookup.eval_bind, Lookup.eval_done, Lookup.eval_pure, bind_eq_ok]
  constructor
  · rintro ⟨index, hindex, id, hid, source, hsource, h⟩
    exact ⟨index, id, source, hindex, hid, hsource, (Except.ok.inj h).symm⟩
  · rintro ⟨index, id, source, hindex, hid, hsource, rfl⟩
    exact ⟨index, hindex, id, hid, source, hsource, rfl⟩

section RequestFor

variable (d x) (index : String) (id : Option String) (source : Document)

theorem requestFor_parts (hr : r = requestFor d x index id source) :
    r.index = index ∧ r.id = id ∧ r.source = source ∧ r.routing = parentOf d x := by
  subst hr
  rw [requestFor]
  split <;> exact ⟨rfl, rfl, rfl, rfl⟩

/-- The check for concurrent changes in a request: a sequence token, or a version, or nothing. -/
theorem requestFor_check (hr : r = requestFor d x index id source) :
    (∃ t, tokenOf d x = some t ∧ r.ifSeqNo = some t.seqNo ∧
      r.ifPrimaryTerm = some t.primaryTerm ∧ r.version = none ∧ r.versionType = none) ∨
    (tokenOf d x = none ∧ r.ifSeqNo = none ∧ r.ifPrimaryTerm = none ∧
      r.version = versionOf d x ∧ r.versionType = (versionOf d x).map fun _ => d.versionType) := by
  subst hr
  rw [requestFor]
  cases tokenOf d x with
  | some t => exact .inl ⟨t, rfl, rfl, rfl, rfl, rfl⟩
  | none =>
      refine .inr ⟨rfl, ?_⟩
      cases versionOf d x with
      | some n => exact ⟨rfl, rfl, rfl, rfl⟩
      | none => exact ⟨rfl, rfl, rfl, rfl⟩

/-- No request has two checks, or a part of one. -/
theorem requestFor_exclusive (hr : r = requestFor d x index id source) :
    (r.version.isSome ↔ r.versionType.isSome) ∧ (r.ifSeqNo.isSome ↔ r.ifPrimaryTerm.isSome) ∧
      (r.version = none ∨ r.ifSeqNo = none) := by
  rcases requestFor_check d x index id source hr with
    ⟨t, -, hseqNo, hterm, hversion, htype⟩ | ⟨-, hseqNo, hterm, hversion, htype⟩
  · simp [hseqNo, hterm, hversion, htype]
  · simp [hseqNo, hterm, hversion, htype]

theorem requestFor_versionType (hr : r = requestFor d x index id source) {t : VersionType}
    (ht : r.versionType = some t) : t = d.versionType := by
  rcases requestFor_check d x index id source hr with ⟨_, -, -, -, -, htype⟩ | ⟨-, -, -, -, htype⟩
  · cases ht.symm.trans htype
  · obtain ⟨n, -, heq⟩ := Option.map_eq_some_iff.mp (htype.symm.trans ht)
    exact heq.symm

end RequestFor

theorem consistent_requestFor {c : Context} (hd : c.describe ref = .ok d) {index : String}
    {id : Option String} {source : Document} (hindex : d.resolveIndex resolver = .ok index)
    (hid : objectId d x = .ok id)
    (hsource : (write c.family ref x).eval c.describe = .ok source)
    (hr : r = requestFor d x index id source) : Consistent c ref d x resolver r := by
  obtain ⟨m, hm, hresolve⟩ := Descriptor.resolveIndex_eq_ok_iff.mp hindex
  obtain ⟨hversion, htoken, hexclusive⟩ := requestFor_exclusive d x index id source hr
  obtain ⟨rfl, rfl, rfl, hrouting⟩ := requestFor_parts d x index id source hr
  constructor
  case source_eq =>
    rw [Lookup.run_fst]
    exact hsource
  case id_eq =>
    rw [Lookup.run_fst, eval_idOf hd]
    exact hid
  case index_eq => exact ⟨m, hm, hresolve⟩
  case version_iff => exact hversion
  case token_iff => exact htoken
  case exclusive => exact hexclusive
  case versionType_eq =>
    intro t ht
    obtain ⟨e, he, -, htype⟩ := Descriptor.exists_document hd hm
    refine ⟨e, he, ?_⟩
    rw [requestFor_versionType d x _ _ _ hr ht, Descriptor.versionType, hm]
    exact htype
  case routing_eq =>
    intro parent
    rw [hrouting]
    exact parentOf_eq_some_iff hd

/-- A request can be made of an object exactly if the type has an index, every expression of its
name has a value and the object can be written. Its parts are then those of the object, with one
check for concurrent changes at most. -/
theorem indexRequest_consistent (c : Context) {ref : EntityRef} {d : Descriptor}
    (hd : c.describe ref = .ok d) {x : Instance}
    (hfits : Datum.FitsMembers c.family x (c.family.type ref).members)
    (resolver : String → Option String) :
    (∃ id, ((idOf ref x).run c).1 = .ok id) ∧
    ((∃ r, ((indexRequest c.family ref x resolver).run c).1 = .ok r) ↔
      (∃ m, d.document = some m ∧ ∀ expression, .expression expression ∈ m.indexName.segments →
        ∃ value, resolver expression = some value) ∧
      ∃ doc, ((write c.family ref x).run c).1 = .ok doc) ∧
    ∀ r, ((indexRequest c.family ref x resolver).run c).1 = .ok r →
      Consistent c ref d x resolver r := by
  obtain ⟨id, hid⟩ := exists_objectId hd hfits
  simp only [Lookup.run_fst, eval_idOf hd, eval_indexRequest_eq_ok_iff hd]
  refine ⟨⟨id, hid⟩, ?_, ?_⟩
  · simp only [← IndexName.exists_resolve_iff]
    constructor
    · rintro ⟨r, index, id, source, hindex, -, hsource, -⟩
      obtain ⟨m, hm, hresolve⟩ := Descriptor.resolveIndex_eq_ok_iff.mp hindex
      exact ⟨⟨m, hm, index, hresolve⟩, source, hsource⟩
    · rintro ⟨⟨m, hm, index, hresolve⟩, source, hsource⟩
      have hindex := Descriptor.resolveIndex_eq_ok_iff.mpr ⟨m, hm, hresolve⟩
      exact ⟨_, index, id, source, hindex, hid, hsource, rfl⟩
  · rintro r ⟨index, id, source, hindex, hid, hsource, hr⟩
    exact consistent_requestFor hd hindex hid hsource hr

end Conversion

/-! ## A post -/

namespace Library

/-- The reference of posts. -/
def postRef : EntityRef := ⟨5, "Post"⟩

/-- Posts are stored in an index for each site, and counted by number. A new post has a sequence
token that is not assigned. -/
def post : EntityType where
  ref := postRef
  name := "Post"
  document := some { indexName := "posts-#\x7bsite\x7d", versionType := .external }
  members := [
    { name := "id", shape := .option (.base .long), initial := .absent, role := some .id },
    { name := "title", shape := .base .string, initial := .string "" },
    { name := "version", shape := .option (.base .long), initial := .absent
      role := some .version },
    { name := "token", shape := .base .token, initial := .token ⟨0, 0⟩ },
    { name := "place", shape := .option (.base .join), initial := .absent
      relations := [⟨"post", ["comment"]⟩] }]

/-- Posts under the default configuration. -/
def posts : Context where
  config := {}
  family := ⟨[post]⟩

/-- The properties of a post. -/
def postProperties : List Property :=
  [{ property 0 "id" .long .long with role := .id },
    property 1 "title" .string .keyword,
    { property 2 "version" .long .long with role := .version },
    { property 3 "token" .sequenceToken .auto with role := .sequenceToken },
    { property 4 "place" .join .join with role := .join, relations := [⟨"post", ["comment"]⟩] }]

/-- The index of posts. -/
def postDocument : DocumentMetadata where
  indexName := ⟨"posts-#\x7bsite\x7d", [.literal "posts-", .expression "site"]⟩
  settings := {}
  versionType := .external
  createIndex := true

/-- A comment on another post, with a number and a version but no assigned token. -/
def samplePost : Instance :=
  [.present (.long 7), .string "Re: read me", .present (.long 3), .token ⟨0, 0⟩,
    .present (.join ⟨"comment", some "p-1"⟩)]

/-- The site of the posts. -/
def site (expression : String) : Option String :=
  if expression = "site" then some "eu" else none

theorem describe_post :
    posts.describe postRef = .ok (.ofProperties "Post" postProperties (some postDocument)) := by
  have hname : IndexName.parse "posts-#\x7bsite\x7d" = .ok postDocument.indexName := by cbv
  refine Descriptor.build_eq_ok_iff.mpr ⟨postProperties, some postDocument, rfl, by decide, ?_,
    by decide, ?_, rfl, rfl⟩
  · intro role _
    cases role <;> decide
  · change (Descriptor.buildDocument _).map some = _
    rw [Descriptor.buildDocument, hname]
    rfl

theorem fitsMembers_samplePost :
    Datum.FitsMembers posts.family samplePost (posts.family.type postRef).members := by
  have htype : posts.family.type postRef = post := rfl
  simp [samplePost, htype, post, Datum.FitsMembers, Datum.Fits, Datum.leaf?]

end Library

namespace Conversion

open Library

theorem indexRequest_post :
    ((indexRequest posts.family postRef samplePost site).run posts).1 = .ok {
      index := "posts-eu", id := some "7", routing := some "p-1"
      ifSeqNo := some 0, ifPrimaryTerm := some 0
      source := .ofEntries [("id", .int 7), ("title", .string "Re: read me"),
        ("place", (Join.mk "comment" (some "p-1")).toJson)] } := by
  rw [Lookup.run_fst, indexRequest, Lookup.eval_ask_ok describe_post]
  rfl

theorem indexRequest_consistent_post :
    ∃ r, ((indexRequest posts.family postRef samplePost site).run posts).1 = .ok r ∧
      r.index = "posts-eu" ∧ r.id = some "7" ∧ r.routing = some "p-1" ∧
      Consistent posts postRef (.ofProperties "Post" postProperties (some postDocument))
        samplePost site r := by
  obtain ⟨-, -, hall⟩ := indexRequest_consistent posts describe_post fitsMembers_samplePost site
  exact ⟨_, indexRequest_post, rfl, rfl, rfl, hall _ indexRequest_post⟩

end Conversion

end ObjectDocument
