import ObjectDocument.Proofs.Conversion.Omission
import ObjectDocument.Proofs.Conversion.Populate
import ObjectDocument.Proofs.Conversion.Tokens

/-!
# Reading documents without their nulls

A document is read the same whether fields that may be missing are `null` or are not there. There is
one exception. Among the values of a document the identifier takes the place of its own `null`, and
comes last without one. The members of a mutable object are set in this order, so if neither the
identifier nor a value in between fits, it depends on the `null` which of them is reported.
-/

namespace ObjectDocument

namespace Conversion

variable {family : Family} {describe : EntityRef → Except Error Descriptor} {config : Config}
  {ref : EntityRef} {d : Descriptor} {chosen : Json.Place → Bool} {entity : String} {p : Property}
  {es : Entries Json} {vs vs' : Entries Value}

/-! ## The identifier -/

theorem exists_idValue_of_idPart {doc : SearchDocument} {ids : List (Property × Value)}
    (h : idPart d doc = .ok ids) : ids = [] ∨ ∃ p id v, d.id? = some p ∧ doc.id = some id ∧
      idValue d.name p id = .ok v ∧ ids = [(p, v)] := by
  rw [idPart] at h
  split at h
  next p id hp hid =>
    obtain ⟨v, hv, rfl⟩ := map_eq_ok_iff.mp h
    exact .inr ⟨p, id, v, hp, hid, hv, rfl⟩
  next =>
    cases h
    exact .inl rfl

/-- The version and the sequence token have no values in the body. -/
theorem not_mem_keys_of_beside {doc : SearchDocument} {name : String}
    {type : EntityType} (hdescribes : d.Describes type.definition)
    (hvs : (readProperties entity (entryReaders family es) d.properties).eval describe = .ok vs)
    (hname : name ∈ Entries.keys (byName (versionPart d doc ++ tokenPart d doc))) :
    name ∉ Entries.keys vs := by
  intro hmem
  rw [Entries.keys, byName, List.map_map] at hname
  obtain ⟨e, he, rfl⟩ := List.mem_map.mp hname
  obtain ⟨⟨k, v⟩, hentry, hk⟩ := List.mem_map.mp hmem
  obtain ⟨q, hq, hqname, hread⟩ := isReadable_of_mem_readProperties hvs hentry
  have hpart {role : Role} {value : Option Value} (hrole : role.isOutOfBand = true)
      (he : e ∈ partOf d role value) : e.1 ∈ d.properties ∧ e.1.role.isOutOfBand = true := by
    have hplain : role ≠ .plain := by
      rintro rfl
      cases hrole
    obtain ⟨hroles, hproperties⟩ := partOf_roles hdescribes hplain value
    have heq : e.1.role = role := List.mem_singleton.mp (hroles.subset (List.mem_map_of_mem he))
    exact ⟨hproperties e he, heq ▸ hrole⟩
  have hbeside := (List.mem_append.mp he).elim (hpart rfl) (hpart rfl)
  obtain rfl : q = e.1 := hdescribes.eq_of_name_eq hq hbeside.1 (hqname.trans hk)
  rw [Property.isReadable, hbeside.2] at hread
  cases hread

/-- Values that come later are those of properties declared later. -/
theorem exists_later {type : EntityType} {v : Value} {pre post : Entries Value}
    {entry : String × Value} (hdescribes : d.Describes type.definition) (hp : p ∈ d.properties)
    (hkeys : (Entries.keys (pre ++ (p.name, v) :: post)).Sublist (d.properties.map (·.name)))
    (hentry : entry ∈ post) :
    ∃ q ∈ d.properties, q.name = entry.1 ∧ p.position < q.position := by
  obtain ⟨qs, hqs, heq⟩ := List.sublist_map_iff.mp hkeys
  rw [Entries.keys, List.map_append] at heq
  obtain ⟨before, rest, rfl, -, hrest⟩ := List.map_eq_append_iff.mp heq.symm
  obtain ⟨p', after, rfl, hname, hafter⟩ := List.map_eq_cons_iff.mp hrest
  obtain rfl : p' = p := hdescribes.eq_of_name_eq (hqs.subset (by simp)) hp hname
  have hmem : entry.1 ∈ after.map (·.name) := hafter ▸ List.mem_map_of_mem hentry
  obtain ⟨q, hq, hqname⟩ := List.mem_map.mp hmem
  have hlater := (List.pairwise_append.mp (hdescribes.pairwise_position.sublist hqs)).2.1
  exact ⟨q, hqs.subset (by simp [hq]), hqname, (List.pairwise_cons.mp hlater).1 q hq⟩

/-- The error of a value that does not fit the member of a property. -/
theorem exists_mismatch_of_misfit? {type : EntityType} {v : Value} {e : Error}
    (hdescribes : d.Describes type.definition) (hp : p ∈ d.properties)
    (h : type.misfit? (p.name, v) = some e) : ∃ (s : Shape) (reason : Mismatch),
      s.kind = p.kind ∧ s.ofValue v = .error reason ∧
      e = .conversion d.name p.name v.display reason := by
  obtain ⟨m, hm, hname, herror⟩ := EntityType.exists_of_misfit? h
  obtain ⟨n, hn, hdescribed⟩ := exists_member hdescribes hp
  obtain rfl : m = n :=
    Option.some.inj ((hdescribes.getElem?_of_name_eq hp hm hname).symm.trans hn)
  rw [EntityType.convert] at herror
  split at herror
  next => cases herror
  next reason hreason =>
    cases herror
    rw [hname, hdescribes.name_eq]
    exact ⟨m.shape, reason, hdescribed.kind_eq.symm, hreason, rfl⟩

/-- An identifier that does not fit is an integer out of the range of 32 bits. -/
theorem exists_long_of_misfit? {type : EntityType} {id : String} {v : Value} {e : Error}
    (hdescribes : d.Describes type.definition) (hp : p ∈ d.properties)
    (hkind : p.kind = .string ∨ p.kind = .long ∨ p.kind = .integer)
    (hid : idValue d.name p id = .ok v) (h : type.misfit? (p.name, v) = some e) :
    p.kind = .integer ∧ ∃ n, Text.parseInt64? id = some n ∧ Base.int32? n.toInt = none ∧
      e = .conversion d.name p.name (Value.long n).display ((Value.long n).mismatch .integer) := by
  obtain ⟨s, reason, hs, hreason, rfl⟩ := exists_mismatch_of_misfit? hdescribes hp h
  have hgives := (Metadatum.gives_id_iff hkind).mpr hid
  have hcollection : s.kind.isCollection = false := by
    rw [hs]
    rcases hkind with h | h | h <;> rw [h] <;> rfl
  obtain ⟨b, hb, hmisfit⟩ :=
    Shape.exists_base_of_ofValue_eq_error hreason hcollection hgives.isNull_eq
  rw [hs] at hb
  cases hgives with
  | text hstring =>
      obtain rfl : b = .string := Base.kind_injective (hb.trans hstring)
      cases hmisfit
  | @number _ n hnumber hn =>
      rcases hnumber with hlong | hinteger
      · obtain rfl : b = .long := Base.kind_injective (hb.trans hlong)
        cases hmisfit
      · obtain rfl : b = .integer := Base.kind_injective (hb.trans hinteger)
        rw [Base.ofValue] at hmisfit
        split at hmisfit
        next => cases hmisfit
        next hrange =>
          cases hmisfit
          exact ⟨hinteger, n, hn, hrange, rfl⟩

/-! ## Documents -/

/-- Whether a document is read the same with `null` in chosen fields and without these fields. -/
def ReadsNullAsAbsence (c : Context) (ref : EntityRef) (doc : SearchDocument)
    (chosen : Json.Place → Bool) : Prop :=
  ((read c.family ref (doc.nulled chosen)).run c).1 =
    ((read c.family ref (doc.stripped chosen)).run c).1

/-- Both ways of reading a document fail, but report different properties. The identifier is an
integer that does not fit in 32 bits. With a `null` in its place it is set before another property,
whose value does not fit either, and without the `null` it is set after it. -/
structure ReportsIdFirst (c : Context) (ref : EntityRef) (d : Descriptor) (doc : SearchDocument)
    (chosen : Json.Place → Bool) (p q : Property) (n : Int64) : Prop where
  immutable_eq : (c.family.type ref).immutable = false
  id?_eq : d.id? = some p
  isChosen : IsChosen chosen doc.source.entries p
  kind_eq : p.kind = .integer
  id_eq : doc.id.bind Text.parseInt64? = some n
  int32?_eq : Base.int32? n.toInt = none
  mem : q ∈ d.properties
  position_lt : p.position < q.position
  run_nulled : ((read c.family ref (doc.nulled chosen)).run c).1 =
    .error (.conversion d.name p.name (Value.long n).display ((Value.long n).mismatch .integer))
  run_stripped : ∃ value reason, ((read c.family ref (doc.stripped chosen)).run c).1 =
    .error (.conversion d.name q.name value reason)

/-- The bodies of either document have the same values, apart from nulls. -/
theorem sameOutcome_source (hd : family.describe config ref = .ok d) (doc : SearchDocument)
    (h : ∀ place, chosen place = true →
      Omissible family (family.describe config) (.entity ref) place) :
    SameOutcome (DropsNulls (IsChosenName d chosen doc.source.entries))
      ((readProperties d.name (entryReaders family (doc.nulled chosen).source.entries)
        d.properties).eval (family.describe config))
      ((readProperties d.name (entryReaders family (doc.stripped chosen).source.entries)
        d.properties).eval (family.describe config)) := by
  apply sameOutcome_readProperties
  intro p hp
  apply foundAlike_refill hp
  intro j _ hread hchosen
  apply readAlike_refill
  exact omissible_inside hd (h _) hp hread hchosen

/-- What the body of a document is read as with `null` in chosen fields, and without these fields. The
object is made of these values and of those beside the body, which are the same either way. -/
structure Bodies (c : Context) (ref : EntityRef) (d : Descriptor) (doc : SearchDocument)
    (chosen : Json.Place → Bool) (vs vs' : Entries Value) : Prop where
  drops : DropsNulls (IsChosenName d chosen doc.source.entries) vs vs'
  keys_sublist : (Entries.keys vs).Sublist (d.properties.map (·.name))
  not_mem_keys : ∀ name ∈ Entries.keys (byName (versionPart d doc ++ tokenPart d doc)),
    name ∉ Entries.keys vs
  run_nulled : ((read c.family ref (doc.nulled chosen)).run c).1 = metadata d doc >>= fun part =>
    (c.family.type ref).instantiate (Entries.setAll vs (byName part))
  run_stripped : ((read c.family ref (doc.stripped chosen)).run c).1 =
    metadata d doc >>= fun part =>
      (c.family.type ref).instantiate (Entries.setAll vs' (byName part))

section Reading

variable {c : Context} {doc : SearchDocument} (hd : c.describe ref = .ok d)

include hd

/-- A document is read as the values of its body together with those beside it. -/
theorem run_read_of_readProperties
    (hvs : (readProperties d.name (entryReaders c.family doc.source.entries) d.properties).eval
      c.describe = .ok vs) (hkeys : (Entries.keys vs).Nodup) :
    ((read c.family ref doc).run c).1 = metadata d doc >>= fun part =>
      (c.family.type ref).instantiate (Entries.setAll vs (byName part)) := by
  rw [Lookup.run_fst, eval_read hd, hvs]
  change (metadata d doc >>= fun part => (c.family.type ref).instantiate
    (Entries.setAll (Entries.merge vs) (byName part))) = _
  rw [Entries.merge_eq_self hkeys]

/-- If the body cannot be read with nulls, it cannot be read without them, with the same error. -/
theorem readsNullAsAbsence_or_bodies (doc : SearchDocument)
    (h : ∀ place, chosen place = true → Omissible c.family c.describe (.entity ref) place) :
    ReadsNullAsAbsence c ref doc chosen ∨ ∃ vs vs', Bodies c ref d doc chosen vs vs' := by
  have hdescribes := Descriptor.describes_of_build hd
  have hsource : SameOutcome _ (Lookup.eval c.describe _) (Lookup.eval c.describe _) :=
    sameOutcome_source hd doc h
  rcases hsource.ok_or_error with ⟨vs, vs', hvs, hvs', hdrops⟩ | ⟨e, he, he'⟩
  · have hnames := keys_readProperties_sublist hvs
    have hkeys := hdescribes.nodup_names.sublist hnames
    refine .inr ⟨vs, vs', hdrops, hnames, fun name => ?_, ?_, ?_⟩
    · exact not_mem_keys_of_beside hdescribes hvs
    · exact run_read_of_readProperties hd hvs hkeys
    · exact run_read_of_readProperties hd hvs' (hkeys.sublist hdrops.keys_sublist)
  · left
    rw [ReadsNullAsAbsence, Lookup.run_fst, Lookup.run_fst, eval_read hd, eval_read hd, he, he']
    rfl

namespace Bodies

variable {ids : List (Property × Value)} (hbodies : Bodies c ref d doc chosen vs vs')
  (hmetadata : metadata d doc = .ok (ids ++ (versionPart d doc ++ tokenPart d doc)))
  (hP : ∀ name, IsChosenName d chosen doc.source.entries name →
    (c.family.type ref).MayOmitName name)

include hbodies hmetadata hP

/-- An identifier that does not take the place of a `null` takes the same place either way. -/
theorem readsNullAsAbsence_of_kept (hkept : ∀ key ∈ Entries.keys (byName ids),
    key ∈ Entries.keys vs → key ∈ Entries.keys vs') : ReadsNullAsAbsence c ref doc chosen := by
  have hdescribes := Descriptor.describes_of_build hd
  have hkeys := hdescribes.nodup_names.sublist hbodies.keys_sublist
  rw [ReadsNullAsAbsence, hbodies.run_nulled, hbodies.run_stripped, hmetadata]
  apply EntityType.instantiate_of_dropsNulls hdescribes.nodup_members
    (Entries.nodup_setAll _ _ hkeys) _ hP
  apply hbodies.drops.setAll hkeys
  intro key hkey hmem
  rw [byName, List.map_append, Entries.keys, List.map_append, List.mem_append] at hkey
  rcases hkey with hid | hbeside
  · exact hkept key hid hmem
  · exact absurd hmem (hbodies.not_mem_keys key hbeside)

/-- An identifier that takes the place of a `null` is set later without it. -/
theorem readsNullAsAbsence_or_of_dropped {id : String} {v : Value} (hids : ids = [(p, v)])
    (hid : d.id? = some p) (hdocid : doc.id = some id) (hv : idValue d.name p id = .ok v)
    (hmem : p.name ∈ Entries.keys vs) (hnot : p.name ∉ Entries.keys vs') :
    ReadsNullAsAbsence c ref doc chosen ∨ ∃ q n, ReportsIdFirst c ref d doc chosen p q n := by
  subst hids
  have hdescribes := Descriptor.describes_of_build hd
  have hkeys := hdescribes.nodup_names.sublist hbodies.keys_sublist
  have hnulled := hbodies.run_nulled
  have hstripped := hbodies.run_stripped
  rw [hmetadata] at hnulled hstripped
  rcases EntityType.instantiate_setAll_of_dropped hdescribes.nodup_members hP hkeys hbodies.drops
    hmem hnot (nodup_byName hdescribes hmetadata) hbodies.not_mem_keys with
    hequal | ⟨pre, post, e, ⟨name, w⟩, e', hmutable, rfl, hchosen, he, hentry, he', hfirst, hlast⟩
  · exact .inl (hnulled.trans (hequal.trans hstripped.symm))
  · obtain ⟨hp, hrole⟩ := (hdescribes.withRole?_eq_some_iff (by simp)).mp hid
    obtain ⟨definition, -, hrepresents⟩ := Descriptor.represents_of_mem hd hp
    obtain ⟨p', hp', hname, hchosen⟩ := hchosen
    obtain rfl : p' = p := hdescribes.eq_of_name_eq hp' hp hname
    obtain ⟨hinteger, n, hn, hrange, rfl⟩ :=
      exists_long_of_misfit? hdescribes hp (hrepresents.id_kind hrole) hv he
    obtain ⟨q, hq, hqname, hlater⟩ := exists_later hdescribes hp hbodies.keys_sublist hentry
    obtain rfl : q.name = name := hqname
    obtain ⟨-, reason, -, -, rfl⟩ := exists_mismatch_of_misfit? hdescribes hq he'
    refine .inr ⟨q, n, hmutable, hid, hchosen, hinteger, ?_, hrange, hq, hlater,
      hnulled.trans hfirst, _, _, hstripped.trans hlast⟩
    rw [hdocid]
    exact hn

end Bodies

/-- A document is read the same with nulls and without them, unless the identifier is reported first
with them. -/
theorem readsNullAsAbsence_or (doc : SearchDocument)
    (h : ∀ place, chosen place = true → Omissible c.family c.describe (.entity ref) place) :
    ReadsNullAsAbsence c ref doc chosen ∨ ∃ p q n, ReportsIdFirst c ref d doc chosen p q n := by
  rcases readsNullAsAbsence_or_bodies hd doc h with hsame | ⟨vs, vs', hbodies⟩
  · exact .inl hsame
  · have hP (name : String) (hname : IsChosenName d chosen doc.source.entries name) :=
      mayOmitName_of_isChosenName hd (h _) hname
    cases hmetadata : metadata d doc with
    | error e =>
        left
        rw [ReadsNullAsAbsence, hbodies.run_nulled, hbodies.run_stripped, hmetadata]
        rfl
    | ok part =>
        obtain ⟨ids, hids, rfl⟩ := map_eq_ok_iff.mp hmetadata
        rcases exists_idValue_of_idPart hids with rfl | ⟨p, id, v, hid, hdocid, hv, rfl⟩
        · refine .inl (hbodies.readsNullAsAbsence_of_kept hd hmetadata hP ?_)
          simp [byName, Entries.keys]
        · by_cases hkept : p.name ∈ Entries.keys vs → p.name ∈ Entries.keys vs'
          · refine .inl (hbodies.readsNullAsAbsence_of_kept hd hmetadata hP ?_)
            simpa [byName, Entries.keys] using hkept
          · obtain ⟨hmem, hnot⟩ := Classical.not_imp.mp hkept
            exact (hbodies.readsNullAsAbsence_or_of_dropped hd hmetadata hP rfl hid hdocid hv hmem
              hnot).imp_right fun hreports => ⟨p, hreports⟩

end Reading

/-- An explicit `null` is read like an absent field. For any choice of fields that may be missing, in
the body of a document and in the objects embedded in it, the document gives the same object or the
same error with `null` in these fields as without them. The only exception is the error of an object
that has both an identifier and a later value that do not fit. -/
theorem reads_null_as_absence (c : Context) {ref : EntityRef} {d : Descriptor}
    (hd : c.describe ref = .ok d) (doc : SearchDocument) {chosen : Json.Place → Bool}
    (h : ∀ place, chosen place = true → Omissible c.family c.describe (.entity ref) place) :
    ReadsNullAsAbsence c ref doc chosen ↔ ¬∃ p q n, ReportsIdFirst c ref d doc chosen p q n := by
  constructor
  · rintro hsame ⟨p, q, n, hreports⟩
    obtain ⟨value, reason, hstripped⟩ := hreports.run_stripped
    have herror := Except.error.inj (hreports.run_nulled.symm.trans (hsame.trans hstripped))
    have hname : p.name = q.name := (Error.conversion.inj herror).2.1
    have hdescribes := Descriptor.describes_of_build hd
    have hp := Descriptor.mem_of_propertyAt? hreports.id?_eq
    obtain rfl : p = q := hdescribes.eq_of_name_eq hp hreports.mem hname
    exact absurd hreports.position_lt (Nat.lt_irrefl _)
  · exact (readsNullAsAbsence_or hd doc h).resolve_right

end Conversion

namespace Library

/-- A book with an author and a sequel. -/
def shelvedBook : SearchDocument where
  version := some 7
  source := .ofEntries [
    ("isbn", .string "3-16"),
    ("authors", .array [.object [("name", .string "Ann"), ("born", .string "1970-01-01")]]),
    ("sequel", .object [("isbn", .string "0-201"), ("authors", .array [])])]

/-- The birthday of the first author, and the authors of the sequel. -/
def details : List Json.Place :=
  [[.field "authors", .item 0, .field "born"], [.field "sequel", .field "authors"]]

/-- The reference of tickets. -/
def ticketRef : EntityRef := ⟨10, "Ticket"⟩

/-- A ticket has a number and a title. -/
def ticket : EntityType where
  ref := ticketRef
  name := "Ticket"
  members := [
    { name := "id", shape := .option (.base .integer), initial := .absent },
    { name := "title", shape := .base .string, initial := .string "" }]

/-- Tickets under the default configuration. -/
def tickets : Context where
  config := {}
  family := ⟨[ticket]⟩

/-- A ticket with a number that is too large, and without a title. -/
def foundTicket : SearchDocument where
  id := some "3000000000"
  source := .ofEntries [("id", .null), ("title", .null)]

theorem describe_ticket : tickets.describe ticketRef = .ok (.ofProperties "Ticket"
    [{ property 0 "id" .integer .integer with role := .id },
      property 1 "title" .string .keyword] none) :=
  rfl

end Library

namespace Conversion

open Library

theorem omissible_details (place : Json.Place) (hplace : decide (place ∈ details) = true) :
    Omissible context.family context.describe (.entity bookRef) place := by
  simp only [details, List.mem_cons, List.not_mem_nil, or_false, decide_eq_true_eq] at hplace
  have hauthors : property 1 "authors" (.list (.entity authorRef)) .object ∈ bookProperties := by
    simp [bookProperties]
  have hsequel : property 2 "sequel" (.entity bookRef) .object ∈ bookProperties := by
    simp [bookProperties]
  have hborn : property 1 "born" .localDate .date ∈ authorProperties := by simp [authorProperties]
  rcases hplace with rfl | rfl
  · apply Omissible.inside describe_book hauthors rfl rfl
    apply Omissible.item
    exact .field describe_author hborn rfl rfl rfl (.inl rfl)
  · apply Omissible.inside describe_book hsequel rfl rfl
    exact .field describe_book hauthors rfl rfl rfl (.inr rfl)

theorem reads_null_as_absence_shelvedBook :
    ReadsNullAsAbsence context bookRef shelvedBook (fun place => place ∈ details) ∧
      ((read context.family bookRef (shelvedBook.nulled fun place => place ∈ details)).run
        context).1 = .ok [.string "3-16",
          .vec [.present (.entity authorRef [.string "Ann", .absent])],
          .present (.entity bookRef [.string "0-201", .vec [], .absent, .absent]),
          .present (.long 7)] := by
  have hid : Descriptor.id? (.ofProperties "Book" bookProperties none) = none := rfl
  refine ⟨(reads_null_as_absence context describe_book shelvedBook omissible_details).mpr ?_, rfl⟩
  rintro ⟨p, q, n, hreports⟩
  cases hid.symm.trans hreports.id?_eq

/-- With the `null` of its number a ticket is rejected for its number, and without it for its title. -/
theorem not_readsNullAsAbsence_ticket :
    tickets.describe ticketRef = .ok (.ofProperties "Ticket"
      [{ property 0 "id" .integer .integer with role := .id },
        property 1 "title" .string .keyword] none) ∧
    (∀ place, decide (place = [.field "id"]) = true →
      Omissible tickets.family tickets.describe (.entity ticketRef) place) ∧
    ¬ReadsNullAsAbsence tickets ticketRef foundTicket (fun place => place = [.field "id"]) := by
  refine ⟨rfl, ?_, ?_⟩
  · intro place hplace
    obtain rfl := of_decide_eq_true hplace
    exact .field describe_ticket List.mem_cons_self rfl rfl rfl (.inr rfl)
  · intro h
    obtain ⟨value, reason, hnulled⟩ : ∃ value reason,
        ((read tickets.family ticketRef (foundTicket.nulled fun place =>
          place = [.field "id"])).run tickets).1 =
            .error (.conversion "Ticket" "id" value reason) := ⟨_, _, rfl⟩
    obtain ⟨value', reason', hstripped⟩ : ∃ value reason,
        ((read tickets.family ticketRef (foundTicket.stripped fun place =>
          place = [.field "id"])).run tickets).1 =
            .error (.conversion "Ticket" "title" value reason) := ⟨_, _, rfl⟩
    have herror := Except.error.inj (hnulled.symm.trans (h.trans hstripped))
    exact absurd (Error.conversion.inj herror).2.1 (by decide)

end Conversion

end ObjectDocument
