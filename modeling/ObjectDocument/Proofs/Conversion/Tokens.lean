import ObjectDocument.Proofs.Conversion.Metadata
import ObjectDocument.Proofs.Conversion.Request

/-!
# Sequence tokens

The engine assigns a sequence token to every write of a document, and refuses a request with the
token of another write. Main statement: a request carries the token that its object holds, assigned
or not. Reading and populating give objects assigned tokens only, so one that is not assigned was
there when the object was new.
-/

namespace ObjectDocument

/-- Whether the engine gave the token to a write of a document. -/
def SequenceToken.IsAssigned (t : SequenceToken) : Prop :=
  0 ≤ t.seqNo.toInt ∧ 1 ≤ t.primaryTerm.toInt

theorem SequenceToken.isAssigned_of_assigned? {seqNo primaryTerm : Int64} {t : SequenceToken}
    (h : assigned? seqNo primaryTerm = some t) : t.IsAssigned := by
  rw [assigned?] at h
  split at h
  next hassigned =>
    cases h
    exact hassigned
  next => cases h

theorem SearchDocument.isAssigned_of_token? {doc : SearchDocument} {t : SequenceToken}
    (h : doc.token? = some t) : t.IsAssigned := by
  obtain ⟨seqNo, -, h⟩ := Option.bind_eq_some_iff.mp h
  obtain ⟨primaryTerm, -, h⟩ := Option.bind_eq_some_iff.mp h
  exact SequenceToken.isAssigned_of_assigned? h

namespace Conversion

/-- The objects that come of conversion: new ones, those read from documents, and either with
metadata put in. -/
inductive Obtained (c : Context) (ref : EntityRef) : Instance → Prop
  | fresh : Obtained c ref (c.family.type ref).fresh
  | read {doc : SearchDocument} {x : Instance} (h : ((read c.family ref doc).run c).1 = .ok x) :
      Obtained c ref x
  | populateId {x y : Instance} {id : String} (hx : Obtained c ref x)
      (h : ((populateId c.family ref x id).run c).1 = .ok y) : Obtained c ref y
  | populateVersion {x y : Instance} {version : Int64} (hx : Obtained c ref x)
      (h : ((populateVersion c.family ref x version).run c).1 = .ok y) : Obtained c ref y
  | populateToken {x y : Instance} {seqNo primaryTerm : Int64} (hx : Obtained c ref x)
      (h : ((populateToken c.family ref x seqNo primaryTerm).run c).1 = .ok y) : Obtained c ref y

/-- Whether a token that an object holds is assigned, or is that of new objects. -/
structure Guarded (d : Descriptor) (type : EntityType) (x : Instance) : Prop where
  length_eq : x.length = type.members.length
  held : ∀ t, Held d x .sequenceToken (.token t) →
    t.IsAssigned ∨ Held d type.fresh .sequenceToken (.token t)

variable {c : Context} {config : Config} {family : Family}
  {describe : EntityRef → Except Error Descriptor} {ref : EntityRef} {type : EntityType}
  {d : Descriptor} {p : Property} {x y : Instance} {v : Value} {t : SequenceToken}

/-! ## One step -/

theorem guarded_fresh (d : Descriptor) (type : EntityType) : Guarded d type type.fresh where
  length_eq := List.length_map _
  held := fun _ ht => .inr ht

/-- It is enough to look at the members that tokens are in. -/
theorem guarded_of_fields (h : Descriptor.build config type.definition = .ok d)
    (hlength : x.length = type.members.length)
    (hfields : ∀ p m e t, p ∈ d.properties → p.role = .sequenceToken →
      type.members[p.position]? = some m → m.DescribedBy type p →
      m.shape.kind = .sequenceToken → x[p.position]? = some e → e.toValue = .token t →
        t.IsAssigned ∨ m.initial.toValue = .token t ∨
          Held d type.fresh .sequenceToken (.token t)) : Guarded d type x := by
  refine ⟨hlength, ?_⟩
  rintro t ⟨p, hp, hrole, hvalue⟩
  obtain ⟨m, hm, hdescribed⟩ := exists_member (Descriptor.describes_of_build h) hp
  obtain ⟨_, -, hrepresents⟩ := Descriptor.represents_of_mem h hp
  have hkind : m.shape.kind = .sequenceToken :=
    hdescribed.kind_eq.symm.trans (hrepresents.token_kind hrole)
  obtain ⟨e, hx⟩ := exists_getElem? hlength hm
  rw [valueOf, hx] at hvalue
  rcases hfields p m e t hp hrole hm hdescribed hkind hx hvalue with ht | ht | ht
  · exact .inl ht
  · refine .inr ⟨p, hp, hrole, ?_⟩
    rw [valueOf, EntityType.fresh, List.getElem?_map, hm]
    exact ht
  · exact .inr ht

/-- Changing a member to something else than a token that is not assigned. -/
theorem Guarded.withValue (hx : Guarded d type x)
    (h : Descriptor.build config type.definition = .ok d) {name : String}
    (hv : ∀ t, v = .token t → t.IsAssigned) (hy : type.withValue x name v = .ok y) :
    Guarded d type y := by
  have hlength := hx.length_eq
  obtain ⟨hlength', hafter⟩ := EntityType.fields_of_withValue
    (Descriptor.describes_of_build h).nodup_members hlength hy
  apply guarded_of_fields h hlength'
  intro p m e t hp hrole hm hdescribed hkind he ht
  obtain ⟨before, hd⟩ := exists_getElem? hlength hm
  obtain ⟨e', he', hfield⟩ := hafter p.position m before hm hd
  obtain rfl : e = e' := Option.some.inj (he.symm.trans he')
  rcases EntityType.toValue_of_fieldAfter (.inr hkind) hfield with hnull | hgiven | hbefore | rfl
  · cases hnull.symm.trans ht
  · split at hgiven
    next => exact .inl (hv t ((Option.some.inj hgiven).trans ht))
    next => cases hgiven
  · have hheld : Held d x .sequenceToken (.token t) := by
      refine ⟨p, hp, hrole, ?_⟩
      rw [valueOf, hd]
      exact hbefore.symm.trans ht
    exact (hx.held t hheld).imp_right .inr
  · exact .inr (.inl ht)

/-! ## Reading -/

theorem mem_partOf_iff {role : Role} {value : Option Value} :
    (p, v) ∈ partOf d role value ↔ d.withRole? role = some p ∧ value = some v := by
  rw [partOf]
  cases d.withRole? role with
  | none => simp
  | some q => cases value <;> simp [eq_comm]

/-- The only token among the metadata of a document is its assigned one. -/
theorem isAssigned_of_mem_metadata {definition : EntityDefinition} (hd : d.Describes definition)
    {doc : SearchDocument} {part : List (Property × Value)} (hpart : metadata d doc = .ok part)
    (hmem : (p, .token t) ∈ part) (hrole : p.role = .sequenceToken) : t.IsAssigned := by
  have hrole_of {role : Role} (hplain : role ≠ .plain) (h : d.withRole? role = some p) :
      p.role = role := ((hd.withRole?_eq_some_iff hplain).mp h).2
  obtain ⟨ids, hids, rfl⟩ := map_eq_ok_iff.mp hpart
  obtain ⟨value, rfl⟩ := idPart_eq_partOf hids
  rcases List.mem_append.mp hmem with hmem | hmem
  · cases hrole.symm.trans (hrole_of (by simp) (mem_partOf_iff.mp hmem).1)
  · rcases List.mem_append.mp hmem with hmem | hmem
    · cases hrole.symm.trans (hrole_of (by simp) (mem_partOf_iff.mp hmem).1)
    · obtain ⟨t', ht', heq⟩ := Option.map_eq_some_iff.mp (mem_partOf_iff.mp hmem).2
      cases heq
      exact SearchDocument.isAssigned_of_token? ht'

/-- A body gives values to readable properties only. -/
theorem isReadable_of_mem_readProperties {entity : String} {entries : List (String × Reader)}
    {ps : List Property} {vs : Entries Value}
    (h : (readProperties entity entries ps).eval describe = .ok vs) {name : String}
    (hmem : (name, v) ∈ vs) : ∃ p ∈ ps, p.name = name ∧ p.isReadable = true := by
  induction ps generalizing vs with
  | nil =>
      cases h
      cases hmem
  | cons p ps ih =>
      have hrest {ws : Entries Value}
          (hws : (readProperties entity entries ps).eval describe = .ok ws)
          (hmem : (name, v) ∈ ws) : ∃ q ∈ p :: ps, q.name = name ∧ q.isReadable = true := by
        obtain ⟨q, hq, hname⟩ := ih hws hmem
        exact ⟨q, List.mem_cons_of_mem _ hq, hname⟩
      rw [readProperties] at h
      split at h
      next hreadable =>
        split at h
        next =>
          simp only [Lookup.eval_bind, bind_eq_ok] at h
          obtain ⟨w, -, ws, hws, h⟩ := h
          cases h
          rcases List.mem_cons.mp hmem with heq | hmem
          · cases heq
            exact ⟨p, List.mem_cons_self, rfl, hreadable⟩
          · exact hrest hws hmem
        next => exact hrest h hmem
      next => exact hrest h hmem

theorem guarded_of_read (hd : c.describe ref = .ok d) {doc : SearchDocument}
    (hx : ((read c.family ref doc).run c).1 = .ok x) : Guarded d (c.family.type ref) x := by
  have hdescribes := Descriptor.describes_of_build hd
  rw [Lookup.run_fst, eval_read hd] at hx
  obtain ⟨vs, hvs, hx⟩ := bind_eq_ok.mp hx
  obtain ⟨part, hpart, hx⟩ := bind_eq_ok.mp hx
  have hkeys := nodup_byName hdescribes hpart
  obtain ⟨hlength, hmade⟩ := EntityType.fields_of_instantiate hdescribes.nodup_members
    (Entries.nodup_setAll _ _ (Entries.nodup_merge vs)) hx
  apply guarded_of_fields hd hlength
  intro p m e t hp hrole hm hdescribed hkind he ht
  obtain ⟨e', he', hfield⟩ := hmade p.position m hm
  obtain rfl : e = e' := Option.some.inj (he.symm.trans he')
  rcases EntityType.toValue_of_fieldFor (.inr hkind) hfield with hnull | hgiven | rfl
  · cases hnull.symm.trans ht
  · rw [ht, ← hdescribed.name_eq] at hgiven
    have hproperty {q : Property} (hq : q ∈ d.properties) (hname : q.name = p.name) : q = p :=
      hdescribes.eq_of_name_eq hq hp hname
    rcases Entries.mem_or_get?_of_get?_setAll hgiven with hmem | hbody
    · obtain ⟨⟨q, w⟩, hentry, heq⟩ := List.mem_map.mp hmem
      obtain rfl := hproperty ((metadata_roles hdescribes hpart).2 _ hentry) (congrArg Prod.fst heq)
      obtain rfl : w = .token t := congrArg Prod.snd heq
      exact .inl (isAssigned_of_mem_metadata hdescribes hpart hentry hrole)
    · -- The body has no values for tokens.
      obtain ⟨q, hq, hname, hreadable⟩ :=
        isReadable_of_mem_readProperties hvs (Entries.mem_of_get?_merge hbody)
      obtain rfl := hproperty hq hname
      rw [Property.isReadable, hrole] at hreadable
      cases hreadable
  · exact .inr (.inl ht)

/-! ## A whole run -/

/-- An identifier is held as a text or a number. -/
theorem idValue_ne_token {entity id : String} : idValue entity p id ≠ .ok (.token t) := by
  rw [idValue]
  split
  · split <;> simp
  · split <;> simp
  · simp

/-- Conversion gives objects assigned tokens only. -/
theorem guarded_of_obtained (hd : c.describe ref = .ok d) (hx : Obtained c ref x) :
    Guarded d (c.family.type ref) x := by
  induction hx with
  | fresh => exact guarded_fresh d _
  | read h => exact guarded_of_read hd h
  | @populateId x y id _ h ih =>
      rw [Lookup.run_fst, Conversion.populateId, Lookup.eval_ask_ok hd] at h
      split at h
      next =>
        cases h
        exact ih
      next p _ =>
        split at h
        next v hv =>
          apply ih.withValue hd _ h
          rintro t rfl
          exact absurd hv idValue_ne_token
        next => cases h
  | @populateVersion x y version _ h ih =>
      rw [Lookup.run_fst, Conversion.populateVersion, Lookup.eval_ask_ok hd] at h
      split at h
      next =>
        cases h
        exact ih
      next => exact ih.withValue hd (by simp) h
  | @populateToken x y seqNo primaryTerm _ h ih =>
      rw [Lookup.run_fst, Conversion.populateToken, Lookup.eval_ask_ok hd] at h
      split at h
      next p t _ ht =>
        apply ih.withValue hd _ h
        intro t' heq
        cases heq
        exact SequenceToken.isAssigned_of_assigned? ht
      next =>
        cases h
        exact ih

/-- A request carries the token that its object holds, whether it is assigned or not, and without
one the version. So it carries assigned tokens only exactly if the object holds no others, and an
object that comes of conversion holds no others but those of a new object. -/
theorem indexRequest_token_iff (c : Context) {ref : EntityRef} {d : Descriptor}
    (hd : c.describe ref = .ok d) {x : Instance} {resolver : String → Option String}
    {r : IndexRequest} (hr : ((indexRequest c.family ref x resolver).run c).1 = .ok r) :
    (∀ seqNo term, r.ifSeqNo = some seqNo ∧ r.ifPrimaryTerm = some term ↔
      Held d x .sequenceToken (.token ⟨seqNo, term⟩)) ∧
    ((∀ seqNo term, r.ifSeqNo = some seqNo ∧ r.ifPrimaryTerm = some term →
        0 ≤ seqNo.toInt ∧ 1 ≤ term.toInt) ↔
      ∀ t, Held d x .sequenceToken (.token t) → t.IsAssigned) ∧
    ((∀ t, ¬Held d x .sequenceToken (.token t)) → r.ifSeqNo = none ∧ r.ifPrimaryTerm = none ∧
      ∀ n, r.version = some n ↔ Held d x .version (.long n)) ∧
    (Obtained c ref x → ∀ t, Held d x .sequenceToken (.token t) →
      t.IsAssigned ∨ Held d (c.family.type ref).fresh .sequenceToken (.token t)) := by
  rw [Lookup.run_fst, eval_indexRequest_eq_ok_iff hd] at hr
  obtain ⟨index, id, source, -, -, -, hr⟩ := hr
  have hcheck := requestFor_check d x index id source hr
  have hsent : ∀ seqNo term, r.ifSeqNo = some seqNo ∧ r.ifPrimaryTerm = some term ↔
      Held d x .sequenceToken (.token ⟨seqNo, term⟩) := by
    intro seqNo term
    rw [← tokenOf_eq_some_iff hd]
    rcases hcheck with ⟨t, ht, hs, hp, -⟩ | ⟨ht, hs, hp, -⟩
    · obtain ⟨_, _⟩ := t
      simp [ht, hs, hp]
    · simp [ht, hs]
  refine ⟨hsent, ?_, ?_, fun hx => (guarded_of_obtained hd hx).held⟩
  · simp only [hsent]
    constructor
    · intro h t ht
      exact h t.seqNo t.primaryTerm ht
    · intro h seqNo term ht
      exact h ⟨seqNo, term⟩ ht
  · intro hnone
    rcases hcheck with ⟨t, ht, -⟩ | ⟨-, hs, hp, hv, -⟩
    · exact absurd ((tokenOf_eq_some_iff hd).mp ht) (hnone t)
    · refine ⟨hs, hp, ?_⟩
      intro n
      rw [hv]
      exact versionOf_eq_some_iff hd

/-! ## A post without an assigned token -/

section Sample

open Library

theorem indexRequest_token_iff_post :
    ∃ r, ((indexRequest posts.family postRef samplePost site).run posts).1 = .ok r ∧
      r.ifSeqNo = some 0 ∧ r.ifPrimaryTerm = some 0 ∧
      Held (.ofProperties "Post" postProperties (some postDocument)) samplePost .sequenceToken
        (.token ⟨0, 0⟩) := by
  obtain ⟨hsent, -⟩ := indexRequest_token_iff posts describe_post indexRequest_post
  exact ⟨_, indexRequest_post, rfl, rfl, (hsent 0 0).mp ⟨rfl, rfl⟩⟩

/-- A token that is not assigned is sent all the same, in place of the version. -/
theorem indexRequest_unassigned_post :
    ¬SequenceToken.IsAssigned ⟨0, 0⟩ ∧
    ∃ r, ((indexRequest posts.family postRef samplePost site).run posts).1 = .ok r ∧
      r.ifSeqNo = some 0 ∧ r.ifPrimaryTerm = some 0 ∧ r.version = none := by
  refine ⟨?_, _, indexRequest_post, rfl, rfl, rfl⟩
  rintro ⟨-, hterm⟩
  exact absurd hterm (by decide)

end Sample

end Conversion

end ObjectDocument
