import ObjectDocument.Proofs.Conversion.Leaf
import ObjectDocument.Proofs.Conversion.Metadata
import ObjectDocument.Proofs.Conversion.Request
import ObjectDocument.Proofs.Text.Numeral

/-!
# Identifiers both ways

The identifier of a document gets into an object as a text or as a number, and back into a request
as a text. Main statement: a text comes back as the number that it stands for is written, so that it
comes back unchanged exactly if it is held as a text or written like that.
-/

namespace ObjectDocument

/-! ## Texts of numbers -/

namespace Text

theorem parseInt64?_int64Text (n : Int64) : parseInt64? (int64Text n) = some n := by
  rw [parseInt64?, int64Text, String.toList_ofList, signed?_signedDigits]
  exact Conversion.int64?_toInt n

theorem int64Text_inj {m n : Int64} (h : int64Text m = int64Text n) : m = n := by
  have hparse := congrArg parseInt64? h
  rw [parseInt64?_int64Text, parseInt64?_int64Text] at hparse
  exact Option.some.inj hparse

end Text

namespace Conversion

/-- The text that an identifier comes back as from a property, if the property can hold it. -/
def returnedId? (p : Property) (id : String) : Option String :=
  match p.kind with
  | .long | .integer => (Text.parseInt64? id).map Text.int64Text
  | _ => some id

section Returned

variable {p : Property} {id other t : String}

theorem kind_ne_string (hp : p.kind = .long ∨ p.kind = .integer) : p.kind ≠ .string := by
  rcases hp with hp | hp
  · simp [hp]
  · simp [hp]

/-- A number comes back as it is written. -/
theorem returnedId?_of_number (hp : p.kind = .long ∨ p.kind = .integer) (id : String) :
    returnedId? p id = (Text.parseInt64? id).map Text.int64Text := by
  rw [returnedId?]
  rcases hp with hp | hp
  · rw [hp]
  · rw [hp]

theorem returnedId?_of_text (hlong : p.kind ≠ .long) (hinteger : p.kind ≠ .integer) (id : String) :
    returnedId? p id = some id := by
  rw [returnedId?]
  split
  next h => exact absurd h hlong
  next h => exact absurd h hinteger
  next => rfl

/-- A text comes back as it is if it is held as one, or is written like a number. -/
theorem returnedId?_eq_some_self_iff (hp : p.kind = .string ∨ p.kind = .long ∨ p.kind = .integer) :
    returnedId? p id = some id ↔ p.kind = .string ∨ ∃ n, id = Text.int64Text n := by
  rcases hp with hp | hp
  · rw [returnedId?_of_text (by simp [hp]) (by simp [hp])]
    simp [hp]
  · have hne := kind_ne_string hp
    rw [returnedId?_of_number hp, Option.map_eq_some_iff]
    constructor
    · rintro ⟨n, -, hn⟩
      exact .inr ⟨n, hn.symm⟩
    · rintro (hstring | ⟨n, rfl⟩)
      · exact absurd hstring hne
      · exact ⟨n, Text.parseInt64?_int64Text n, rfl⟩

/-- Two texts come back as one if they are the same, or are held as the same number. -/
theorem returnedId?_eq_some_iff (hp : p.kind = .string ∨ p.kind = .long ∨ p.kind = .integer)
    (h : returnedId? p id = some t) : returnedId? p other = some t ↔
      id = other ∨ p.kind ≠ .string ∧ Text.parseInt64? id = Text.parseInt64? other := by
  rcases hp with hp | hp
  · rw [returnedId?_of_text (by simp [hp]) (by simp [hp])] at h ⊢
    cases h
    simp [hp, eq_comm]
  · have hne := kind_ne_string hp
    rw [returnedId?_of_number hp] at h ⊢
    obtain ⟨n, hn, rfl⟩ := Option.map_eq_some_iff.mp h
    rw [hn, Option.map_eq_some_iff]
    constructor
    · rintro ⟨k, hk, htext⟩
      rw [hk, Text.int64Text_inj htext]
      exact .inr ⟨hne, rfl⟩
    · rintro (rfl | ⟨-, hother⟩)
      · exact ⟨n, hn, rfl⟩
      · exact ⟨n, hother.symm, rfl⟩

/-- What a text is held as says which text it comes back as. -/
theorem returnedId?_of_idValue {entity : String} {v : Value} (h : idValue entity p id = .ok v) :
    v.isNull = false ∧ ∃ t, returnedId? p id = some t ∧ idText entity p v = .ok (some t) := by
  have hnumber (hp : p.kind = .long ∨ p.kind = .integer) {n : Int64}
      (hn : Text.parseInt64? id = some n) : returnedId? p id = some (Text.int64Text n) := by
    rw [returnedId?_of_number hp, hn, Option.map_some]
  rw [idValue] at h
  split at h
  next hp =>
    split at h
    next n hn =>
      cases h
      exact ⟨rfl, Text.int64Text n, hnumber (.inl hp) hn, rfl⟩
    next => cases h
  next hp =>
    split at h
    next n hn =>
      cases h
      exact ⟨rfl, Text.int64Text n, hnumber (.inr hp) hn, rfl⟩
    next => cases h
  next hlong hinteger =>
    cases h
    exact ⟨rfl, id, returnedId?_of_text hlong hinteger id, rfl⟩

end Returned

/-- Whether an object is identified by what a text comes back as, on its own and in every request
made of it. -/
def IdentifiedBy (c : Context) (ref : EntityRef) (p : Property) (id : String) (x : Instance) :
    Prop :=
  ∃ t, returnedId? p id = some t ∧ ((idOf ref x).run c).1 = .ok (some t) ∧
    ∀ resolver r, ((indexRequest c.family ref x resolver).run c).1 = .ok r → r.id = some t

variable {c : Context} {ref : EntityRef} {d : Descriptor} {p : Property} {id : String}
  {x : Instance} {m : Member} {v : Value} {e : Datum}

/-- An object is identified by the value of its identifier. -/
theorem identifiedBy_of_field (hd : c.describe ref = .ok d) (hid : d.id? = some p)
    (hkind : m.shape.kind.isIdentifier = true) (hx : x[p.position]? = some e)
    (he : m.shape.ofValue v = .ok e) (hv : idValue d.name p id = .ok v) :
    IdentifiedBy c ref p id x := by
  obtain ⟨-, t, ht, htext⟩ := returnedId?_of_idValue hv
  have hvalue : valueOf x p = v := by
    rw [valueOf, hx]
    exact Shape.toValue_of_ofValue (.inl hkind) he
  have hobject : objectId d x = .ok (some t) := by
    rw [objectId, hid]
    dsimp only
    rw [hvalue, htext]
  refine ⟨t, ht, ?_, ?_⟩
  · rw [Lookup.run_fst, eval_idOf hd, hobject]
  · intro resolver r hr
    rw [Lookup.run_fst, eval_indexRequest_eq_ok_iff hd] at hr
    obtain ⟨index, id', source, -, hid', -, hr⟩ := hr
    rw [(requestFor_parts d x index id' source hr).2.1]
    exact Except.ok.inj (hid'.symm.trans hobject)

/-- The identifier is among the metadata of a document. -/
theorem exists_mem_metadata (hid : d.id? = some p) {doc : SearchDocument} (hdoc : doc.id = some id)
    {part : List (Property × Value)} (hpart : metadata d doc = .ok part) :
    ∃ v, idValue d.name p id = .ok v ∧ (p, v) ∈ part := by
  obtain ⟨ids, hids, rfl⟩ := map_eq_ok_iff.mp hpart
  rw [idPart, hid, hdoc] at hids
  obtain ⟨v, hv, rfl⟩ := map_eq_ok_iff.mp hids
  exact ⟨v, hv, List.mem_append_left _ (List.mem_singleton_self _)⟩

/-- Reading a document gives the identifier's member the value of the document's identifier. -/
theorem exists_field_of_read (hd : c.describe ref = .ok d) (hid : d.id? = some p)
    (hdescribed : m.DescribedBy (c.family.type ref) p)
    (hm : (c.family.type ref).members[p.position]? = some m)
    (haccepts : (c.family.type ref).accepts m = true) {doc : SearchDocument}
    (hdoc : doc.id = some id) (hx : ((read c.family ref doc).run c).1 = .ok x) :
    ∃ v e, idValue d.name p id = .ok v ∧ x[p.position]? = some e ∧ m.shape.ofValue v = .ok e := by
  have hdescribes := Descriptor.describes_of_build hd
  rw [Lookup.run_fst, eval_read hd] at hx
  obtain ⟨vs, -, hx⟩ := bind_eq_ok.mp hx
  obtain ⟨part, hpart, hx⟩ := bind_eq_ok.mp hx
  obtain ⟨v, hv, hmem⟩ := exists_mem_metadata hid hdoc hpart
  obtain ⟨-, hfields⟩ := EntityType.fields_of_instantiate hdescribes.nodup_members
    (Entries.nodup_setAll _ _ (Entries.nodup_merge vs)) hx
  obtain ⟨e, he, hfield⟩ := hfields p.position m hm
  -- The other metadata is that of other properties, so it leaves the identifier as it is.
  have hname : (p.name, v) ∈ byName part := List.mem_map.mpr ⟨(p, v), hmem, rfl⟩
  have hnodup := nodup_byName hdescribes hpart
  rw [← hdescribed.name_eq, Entries.get?_setAll_of_mem hnodup hname,
    EntityType.fieldFor_accepts haccepts (returnedId?_of_idValue hv).1,
    EntityType.convert_eq_ok_iff] at hfield
  exact ⟨v, e, hv, he, hfield⟩

/-- Populating an object gives the identifier's member the value of the identifier. -/
theorem exists_field_of_populateId (hd : c.describe ref = .ok d) (hid : d.id? = some p)
    (hdescribed : m.DescribedBy (c.family.type ref) p)
    (hm : (c.family.type ref).members[p.position]? = some m)
    (haccepts : (c.family.type ref).accepts m = true) {y : Instance}
    (hlength : x.length = (c.family.type ref).members.length)
    (hy : ((populateId c.family ref x id).run c).1 = .ok y) :
    ∃ v e, idValue d.name p id = .ok v ∧ y[p.position]? = some e ∧ m.shape.ofValue v = .ok e := by
  rw [Lookup.run_fst, populateId, Lookup.eval_ask_ok hd, hid] at hy
  dsimp only at hy
  cases hv : idValue d.name p id with
  | error error =>
      rw [hv] at hy
      cases hy
  | ok v =>
      rw [hv] at hy
      obtain ⟨before, hx⟩ := exists_getElem? hlength hm
      obtain ⟨-, hfields⟩ := EntityType.fields_of_withValue
        (Descriptor.describes_of_build hd).nodup_members hlength hy
      obtain ⟨e, he, hfield⟩ := hfields p.position m before hm hx
      rw [if_pos hdescribed.name_eq, EntityType.fieldAfter_accepts haccepts
        (returnedId?_of_idValue hv).1, EntityType.convert_eq_ok_iff] at hfield
      exact ⟨v, e, rfl, he, hfield⟩

/-- The identifier of a document, and one that is put into an object, come back as numbers are
written if they are held as numbers, and else unchanged. So an identifier comes back unchanged
exactly if it is held as a text or written like a number, and two of them come back as one exactly
if they are the same text or stand for the same number. -/
theorem identifiedBy_of_read_populate (c : Context) {ref : EntityRef} {d : Descriptor}
    (hd : c.describe ref = .ok d) {p : Property} (hp : p ∈ d.properties) (hrole : p.role = .id)
    {m : Member} (hm : (c.family.type ref).members[p.position]? = some m)
    (haccepts : (c.family.type ref).accepts m = true) (id : String) :
    (∀ doc x, doc.id = some id → ((read c.family ref doc).run c).1 = .ok x →
      IdentifiedBy c ref p id x) ∧
    (∀ x y, Datum.FitsMembers c.family x (c.family.type ref).members →
      ((populateId c.family ref x id).run c).1 = .ok y → IdentifiedBy c ref p id y) ∧
    (returnedId? p id = some id ↔ p.kind = .string ∨ ∃ n, id = Text.int64Text n) ∧
    ∀ other t, returnedId? p id = some t → (returnedId? p other = some t ↔
      id = other ∨ p.kind ≠ .string ∧ Text.parseInt64? id = Text.parseInt64? other) := by
  have hid : d.id? = some p :=
    ((Descriptor.describes_of_build hd).withRole?_eq_some_iff (by simp)).mpr ⟨hp, hrole⟩
  obtain ⟨n, hn, hdescribed⟩ := exists_member (Descriptor.describes_of_build hd) hp
  obtain rfl : m = n := Option.some.inj (hm.symm.trans hn)
  obtain ⟨_, -, hrepresents⟩ := Descriptor.represents_of_mem hd hp
  have hkinds := hrepresents.id_kind hrole
  have hkind : m.shape.kind.isIdentifier = true := by
    rw [← hdescribed.kind_eq]
    exact Property.isIdentifier_iff.mpr hkinds
  refine ⟨?_, ?_, returnedId?_eq_some_self_iff hkinds, ?_⟩
  · intro doc x hdoc hx
    obtain ⟨v, e, hv, he, hvalue⟩ := exists_field_of_read hd hid hdescribed hm haccepts hdoc hx
    exact identifiedBy_of_field hd hid hkind he hvalue hv
  · intro x y hfits hy
    obtain ⟨v, e, hv, he, hvalue⟩ := exists_field_of_populateId hd hid hdescribed hm haccepts
      (Datum.length_eq_of_fitsMembers hfits) hy
    exact identifiedBy_of_field hd hid hkind he hvalue hv
  · exact fun other t ht => returnedId?_eq_some_iff hkinds ht

/-! ## A post and its number -/

section Sample

open Library

theorem identifiedBy_of_read_populate_post :
    (∃ x, ((read posts.family postRef { id := some "12" }).run posts).1 = .ok x ∧
      IdentifiedBy posts postRef { property 0 "id" .long .long with role := .id } "12" x) ∧
    ∃ y, ((populateId posts.family postRef samplePost "12").run posts).1 = .ok y ∧
      IdentifiedBy posts postRef { property 0 "id" .long .long with role := .id } "12" y := by
  obtain ⟨hread, hpopulate, -⟩ := identifiedBy_of_read_populate posts describe_post
    (List.mem_cons_self : _ ∈ postProperties) rfl rfl rfl "12"
  constructor
  · obtain ⟨x, hx⟩ : ∃ x, ((read posts.family postRef { id := some "12" }).run posts).1 =
        .ok x := by
      rw [Lookup.run_fst, read, Lookup.eval_ask_ok describe_post]
      exact ⟨_, rfl⟩
    exact ⟨x, hx, hread _ x rfl hx⟩
  · obtain ⟨y, hy⟩ : ∃ y, ((populateId posts.family postRef samplePost "12").run posts).1 =
        .ok y := by
      rw [Lookup.run_fst, populateId, Lookup.eval_ask_ok describe_post]
      exact ⟨_, rfl⟩
    exact ⟨y, hy, hpopulate samplePost y fitsMembers_samplePost hy⟩

/-- The identifiers `007` and `+5` come back as `7` and `5`. -/
theorem idOf_read_post :
    (∃ x, ((read posts.family postRef { id := some "007" }).run posts).1 = .ok x ∧
      ((idOf postRef x).run posts).1 = .ok (some "7")) ∧
    ∃ y, ((populateId posts.family postRef samplePost "+5").run posts).1 = .ok y ∧
      ((idOf postRef y).run posts).1 = .ok (some "5") := by
  simp only [Lookup.run_fst, read, populateId, idOf, Lookup.eval_ask_ok describe_post]
  exact ⟨⟨_, rfl, rfl⟩, _, rfl, rfl⟩

end Sample

end Conversion

end ObjectDocument
