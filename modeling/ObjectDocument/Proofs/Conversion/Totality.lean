import Mathlib.Data.List.Nodup
import ObjectDocument.Proofs.Conversion.Leaf
import ObjectDocument.Proofs.Conversion.Embedding
import ObjectDocument.Proofs.Converter.Printing
import ObjectDocument.Proofs.EntityType

/-!
# When writing succeeds

JSON has no number for a double that is infinite or not a number. Main statement: in a family
without converters of its own, writing fails with the first such double and succeeds if there is
none, and the document has one entry for each property that is stored, in order of declaration and
at every depth.
-/

namespace ObjectDocument

/-- A double that JSON has no number for, in a property of an entity. -/
structure NonFinite where
  entity : String
  property : String
  value : Float

/-- The error that reports the double. -/
def NonFinite.error (o : NonFinite) : Error :=
  .conversion o.entity o.property (Value.double o.value).display
    ⟨.finiteNumber, Conversion.nonFiniteName o.value⟩

/-- Whether a document has an entry for a property that holds a datum: the property is written, and
an absent datum is stored. -/
def Property.stores (p : Property) (d : Datum) : Bool :=
  p.isWritable && (!d.toValue.isNull || p.storesNull)

/-- An absent datum that is not stored is passed over. -/
theorem Property.stores_eq (p : Property) (d : Datum) :
    p.stores d = (p.isWritable && !(d.toValue.isNull && !p.storesNull)) := by
  rw [stores, Bool.not_and, Bool.not_not]

/-- What the keys of a document say about an object. They are the wire names of the stored
properties, in order of declaration, each once. -/
structure Descriptor.HasKeys (d : Descriptor) (x : Instance) (es : Entries Json) : Prop where
  keys_eq : Entries.keys es =
    ((d.properties.zip x).filter fun (p, e) => p.stores e).map (·.1.fieldName)
  nodup : (Entries.keys es).Nodup
  /-- No key belongs to a property that is read only or transient, or that travels beside the
  document. -/
  writable : ∀ key ∈ Entries.keys es, ∃ p ∈ d.properties, p.fieldName = key ∧
    (p.access = .readWrite ∨ p.access = .writeOnly) ∧ p.role ≠ .version ∧ p.role ≠ .sequenceToken
  /-- What is only read has a name of its own, which is not among the keys. -/
  readOnly : ∀ p ∈ d.properties, p.isReadable = true → p.isWritable = false →
    p.fieldName ∉ Entries.keys es

section Describe

variable (describe : EntityRef → Except Error Descriptor)

mutual

/-- The doubles of a datum that JSON has no number for, where the datum is that of a property of an
entity. Only what is written counts, in order of declaration and in the order of lists. -/
def Datum.nonFinite (entity : String) (p : Property) : Datum → List NonFinite
  | .double x => if x.isFinite then [] else [⟨entity, p.name, x⟩]
  | .float x => if x.toFloat.isFinite then [] else [⟨entity, p.name, x.toFloat⟩]
  | .present d => d.nonFinite entity p
  | .vec items => Datum.nonFiniteAll entity p items
  | .entity ref fields =>
    match describe ref with
    | .ok d => Datum.nonFiniteMembers d.name fields d.properties
    | .error _ => []
  | _ => []

/-- The doubles in a list that JSON has no number for. -/
def Datum.nonFiniteAll (entity : String) (p : Property) : List Datum → List NonFinite
  | [] => []
  | d :: ds => d.nonFinite entity p ++ Datum.nonFiniteAll entity p ds

/-- The doubles in the fields of an object that JSON has no number for. -/
def Datum.nonFiniteMembers (entity : String) : List Datum → List Property → List NonFinite
  | d :: ds, p :: ps =>
    (if p.isWritable then d.nonFinite entity p else []) ++ Datum.nonFiniteMembers entity ds ps
  | _, _ => []

end

mutual

/-- JSON with the keys that a datum calls for, at every depth. -/
inductive Datum.Keyed : Datum → Json → Prop
  | leaf {d : Datum} {b : Base} {j : Json} (h : d.leaf? = some b) : Datum.Keyed d j
  | absent : Datum.Keyed .absent .null
  | present {d : Datum} {j : Json} (h : Datum.Keyed d j) : Datum.Keyed (.present d) j
  | vec {ds : List Datum} {js : List Json} (h : Datum.KeyedAll ds js) :
      Datum.Keyed (.vec ds) (.array js)
  | entity {ref : EntityRef} {x : List Datum} {d : Descriptor} {es : Entries Json}
      (hd : describe ref = .ok d) (hkeys : d.HasKeys x es)
      (h : Datum.KeyedMembers d.properties x es) : Datum.Keyed (.entity ref x) (.object es)

/-- Lists of JSON whose items have the keys that the data call for, one by one. -/
inductive Datum.KeyedAll : List Datum → List Json → Prop
  | nil : Datum.KeyedAll [] []
  | cons {d : Datum} {ds : List Datum} {j : Json} {js : List Json} (h : Datum.Keyed d j)
      (hrest : Datum.KeyedAll ds js) : Datum.KeyedAll (d :: ds) (j :: js)

/-- Entries that stand for the stored fields of an object, one after another. -/
inductive Datum.KeyedMembers : List Property → List Datum → Entries Json → Prop
  | nil : Datum.KeyedMembers [] [] []
  | left {p : Property} {ps : List Property} {d : Datum} {ds : List Datum} {es : Entries Json}
      (hp : p.stores d = false) (hrest : Datum.KeyedMembers ps ds es) :
      Datum.KeyedMembers (p :: ps) (d :: ds) es
  | stored {p : Property} {ps : List Property} {d : Datum} {ds : List Datum} {es : Entries Json}
      {j : Json} (hp : p.stores d = true) (h : Datum.Keyed d j)
      (hrest : Datum.KeyedMembers ps ds es) :
      Datum.KeyedMembers (p :: ps) (d :: ds) ((p.fieldName, j) :: es)

end

end Describe

/-- A single value is not a list. -/
theorem Base.element_kind (b : Base) : b.kind.element = b.kind := by
  cases b with
  | _ => rfl

theorem Access.writes_iff {access : Access} :
    access.writes = true ↔ access = .readWrite ∨ access = .writeOnly := by
  cases access <;> simp [Access.writes]

/-! ## Results and the doubles that keep them from being -/

section Settles

variable {α β : Type}

/-- Whether a result is the error of the first of some doubles, and a good one if there is none. -/
def Settles (result : Except Error α) (faults : List NonFinite) (Good : α → Prop) : Prop :=
  match faults with
  | [] => ∃ a, result = .ok a ∧ Good a
  | o :: _ => result = .error o.error

variable {result : Except Error α} {faults : List NonFinite} {Good : α → Prop}

theorem Settles.bind {f : α → Except Error β} {faults' : List NonFinite} {Good' : β → Prop}
    (h : Settles result faults Good) (hf : ∀ a, Good a → Settles (f a) faults' Good') :
    Settles (result >>= f) (faults ++ faults') Good' := by
  cases faults with
  | nil =>
      obtain ⟨a, rfl, ha⟩ := h
      exact hf a ha
  | cons o os =>
      obtain rfl : result = .error o.error := h
      rfl

theorem Settles.imp {Good' : α → Prop} (h : Settles result faults Good)
    (hgood : ∀ a, Good a → Good' a) : Settles result faults Good' := by
  cases faults with
  | nil =>
      obtain ⟨a, ha, hgood'⟩ := h
      exact ⟨a, ha, hgood a hgood'⟩
  | cons o os => exact h

theorem Settles.map {f : α → β} {Good' : β → Prop} (h : Settles result faults Good)
    (hf : ∀ a, Good a → Good' (f a)) : Settles (result.map f) faults Good' := by
  cases faults with
  | nil =>
      obtain ⟨a, rfl, ha⟩ := h
      exact ⟨f a, rfl, hf a ha⟩
  | cons o os =>
      obtain rfl : result = .error o.error := h
      rfl

theorem Settles.pure {a : α} (h : Good a) : Settles (.ok a) [] Good :=
  ⟨a, rfl, h⟩

theorem Settles.exists_ok_iff (h : Settles result faults Good) :
    (∃ a, result = .ok a) ↔ faults = [] := by
  cases faults with
  | nil =>
      obtain ⟨a, ha, -⟩ := h
      exact iff_of_true ⟨a, ha⟩ rfl
  | cons o os =>
      obtain rfl : result = .error o.error := h
      simp

theorem Settles.good (h : Settles result faults Good) {a : α} (ha : result = .ok a) : Good a := by
  obtain rfl := h.exists_ok_iff.mp ⟨a, ha⟩
  obtain ⟨a', ha', hgood⟩ := h
  rwa [Except.ok.inj (ha.symm.trans ha')]

theorem Settles.error_eq (h : Settles result faults Good) {e : Error} (he : result = .error e) :
    ∃ o, faults.head? = some o ∧ e = o.error := by
  cases faults with
  | nil =>
      obtain ⟨a, ha, -⟩ := h
      cases he.symm.trans ha
  | cons o os => exact ⟨o, rfl, Except.error.inj (he.symm.trans h)⟩

end Settles

/-- A family whose descriptors can be built and whose fields have no converters of their own. -/
structure PlainFamily (config : Config) (family : Family) : Prop where
  builds : ∀ type ∈ family.types, ∃ d, family.describe config type.ref = .ok d
  converter_eq : ∀ type ∈ family.types, ∀ m ∈ type.members, ∀ field,
    m.field.mainField? = some field → field.converter = none

namespace PlainFamily

variable {config : Config} {family : Family} {ref : EntityRef} {d : Descriptor}

theorem exists_describe (h : PlainFamily config family)
    (href : ∃ type ∈ family.types, type.ref = ref) : ∃ d, family.describe config ref = .ok d := by
  obtain ⟨type, htype, rfl⟩ := href
  exact h.builds type htype

/-- No converter of a property refuses a value. -/
theorem writesAll (h : PlainFamily config family) (href : ∃ type ∈ family.types, type.ref = ref)
    (hd : family.describe config ref = .ok d) : ∀ p ∈ d.properties, p.WritesAll := by
  intro p hp
  apply Property.writesAll_of_build hd _ hp
  intro e he
  obtain ⟨m, hm, rfl⟩ := List.mem_map.mp he
  exact h.converter_eq (family.type ref) (Family.type_mem href).1 m hm

end PlainFamily

namespace Conversion

variable {family : Family} {config : Config} {entity : String} {p : Property}

/-! ## Single values -/

theorem writeLeaf_nonFinite (entity : String) (p : Property) {x : Float}
    (hx : x.isFinite = false) :
    writeLeaf entity p (.double x) = .error (NonFinite.error ⟨entity, p.name, x⟩) := by
  rw [writeLeaf]
  exact if_neg (by simp [hx])

/-- A finite value is written, as the converter of the property refuses none of its kind. -/
theorem exists_writeLeaf {d : Datum} {b : Base} (hp : p.WritesAll) (hd : d.leaf? = some b)
    (hkind : b.kind = p.kind.element) (entity : String)
    (hfinite : ∀ x, d.toValue = .double x → x.isFinite = true) :
    ∃ j, writeLeaf entity p d.toValue = .ok j := by
  rw [writeLeaf_finite entity p hfinite]
  cases hc : p.converter with
  | none => exact ⟨_, rfl⟩
  | some c =>
      obtain ⟨s, hs⟩ := hp c hc d b hd hkind
      exact ⟨.string s, by simp only [hs]⟩

section Leaf

variable {describe : EntityRef → Except Error Descriptor} {d : Datum} {b : Base}

theorem settles_finite (hp : p.WritesAll) (hd : d.leaf? = some b)
    (hkind : b.kind = p.kind.element) (entity : String)
    (hfinite : ∀ x, d.toValue = .double x → x.isFinite = true) :
    Settles (((writer family d).write entity p).eval describe) [] (d.Keyed describe) := by
  rw [writer_leaf hd]
  obtain ⟨j, hj⟩ := exists_writeLeaf hp hd hkind entity hfinite
  exact ⟨j, hj, .leaf hd⟩

theorem settles_double (hp : p.WritesAll) (hd : d.leaf? = some b)
    (hkind : b.kind = p.kind.element) (entity : String) {x : Float} (hx : d.toValue = .double x) :
    Settles (((writer family d).write entity p).eval describe)
      (if x.isFinite then [] else [⟨entity, p.name, x⟩]) (d.Keyed describe) := by
  cases hfinite : x.isFinite with
  | true =>
      apply settles_finite hp hd hkind entity
      intro y hy
      rwa [← Value.double.inj (hx.symm.trans hy)]
  | false =>
      rw [writer_leaf hd, Writer.leaf, hx]
      exact writeLeaf_nonFinite entity p hfinite

end Leaf

/-! ## Objects -/

section Members

variable {describe : EntityRef → Except Error Descriptor} {ws : List Writer} {d : Datum}
  {ps : List Property} {ds : List Datum} {es : Entries Json}

/-- The outcome of writing a datum as one of a property: the first double that JSON has no number
for, or JSON with the right keys. -/
def Writes (family : Family) (describe : EntityRef → Except Error Descriptor) (entity : String)
    (p : Property) (d : Datum) : Prop :=
  Settles (((writer family d).write entity p).eval describe) (d.nonFinite describe entity p)
    (d.Keyed describe)

/-- An absent datum holds no double. -/
theorem nonFinite_of_isNull (describe : EntityRef → Except Error Descriptor) (entity : String)
    (p : Property) : ∀ d : Datum, d.toValue.isNull = true → d.nonFinite describe entity p = []
  | .absent, _ => by rw [Datum.nonFinite] <;> simp
  | .present d, hd => by
    rw [Datum.nonFinite]
    exact nonFinite_of_isNull describe entity p d hd
  | .vec _, hd | .entity _ _, hd | .bool _, hd | .long _, hd | .integer _, hd | .double _, hd
  | .float _, hd | .string _, hd | .date _, hd | .dateTime _, hd | .instant _, hd | .join _, hd
  | .token _, hd | .json _, hd => by cases hd

section Stored

variable (hwriter : (ws[p.position]?).getD .null = writer family d)

include hwriter

theorem writeProperties_unstored (hd : p.stores d = false) :
    writeProperties Writer.atPosition entity ws (p :: ps) =
      writeProperties Writer.atPosition entity ws ps := by
  rw [writeProperties, Writer.atPosition, hwriter]
  dsimp only
  rw [isNull_writer]
  cases hwritable : p.isWritable with
  | false => rfl
  | true =>
      have hskip : (d.toValue.isNull && !p.storesNull) = true := by
        simpa [Property.stores_eq, hwritable] using hd
      rw [hskip]
      rfl

theorem writeProperties_stored (hd : p.stores d = true) :
    writeProperties Writer.atPosition entity ws (p :: ps) = (do
      let j ← (writer family d).write entity p
      List.cons (p.fieldName, j) <$> writeProperties Writer.atPosition entity ws ps) := by
  rw [Property.stores_eq, Bool.and_eq_true, Bool.not_eq_true'] at hd
  obtain ⟨hwritable, hkeep⟩ := hd
  rw [writeProperties, Writer.atPosition, hwriter]
  dsimp only
  rw [isNull_writer, hwritable, hkeep]
  simp only [map_eq_pure_bind]
  rfl

end Stored

/-- The doubles of a property that is not stored do not count. -/
theorem nonFiniteMembers_unstored (hd : p.stores d = false) :
    Datum.nonFiniteMembers describe entity (d :: ds) (p :: ps) =
      Datum.nonFiniteMembers describe entity ds ps := by
  rw [Datum.nonFiniteMembers]
  split
  next hwritable =>
    have hnull : d.toValue.isNull = true := by
      rw [Property.stores, hwritable, Bool.true_and, Bool.or_eq_false_iff] at hd
      simpa using hd.1
    rw [nonFinite_of_isNull describe entity p d hnull, List.nil_append]
  next => rfl

theorem nonFiniteMembers_stored (hd : p.stores d = true) :
    Datum.nonFiniteMembers describe entity (d :: ds) (p :: ps) =
      d.nonFinite describe entity p ++ Datum.nonFiniteMembers describe entity ds ps := by
  rw [Datum.nonFiniteMembers, if_pos (Bool.and_eq_true _ _ ▸ hd).1]

/-- The properties of an object are written one after another. -/
theorem settles_writeProperties (h : List.Forall₂ (fun p d =>
      (ws[p.position]?).getD .null = writer family d ∧ Writes family describe entity p d) ps ds) :
    Settles ((writeProperties Writer.atPosition entity ws ps).eval describe)
      (Datum.nonFiniteMembers describe entity ds ps) (Datum.KeyedMembers describe ps ds) := by
  induction h with
  | nil => exact .pure .nil
  | @cons p d ps ds hd hds ih =>
      obtain ⟨hwriter, hwrites⟩ := hd
      cases hstores : p.stores d with
      | false =>
          rw [writeProperties_unstored hwriter hstores, nonFiniteMembers_unstored hstores]
          exact ih.imp fun es hes => .left hstores hes
      | true =>
          rw [writeProperties_stored hwriter hstores, nonFiniteMembers_stored hstores]
          rw [Lookup.eval_bind]
          apply hwrites.bind
          intro j hj
          rw [Lookup.eval_map]
          exact ih.map fun es hes => .stored hstores hj hes

/-- By their positions, properties find the writers of their own data. -/
theorem forall₂_writer {R : Property → Datum → Prop} (h : List.Forall₂ R ps ds)
    (hposition : ∀ (i : Nat) (p : Property), ps[i]? = some p → p.position = i) :
    List.Forall₂ (fun p d =>
      ((writers family ds)[p.position]?).getD .null = writer family d ∧ R p d) ps ds := by
  obtain ⟨hlength, hR⟩ := forall₂_iff_getElem?.mp h
  refine forall₂_iff_getElem?.mpr ⟨hlength, ?_⟩
  intro i p d hp hd
  refine ⟨?_, hR i p d hp hd⟩
  rw [hposition i p hp, writers_eq_map, List.getElem?_map, hd]
  rfl

/-! ## Keys -/

theorem keys_of_keyedMembers : ∀ {ps : List Property} {ds : List Datum} {es : Entries Json},
    Datum.KeyedMembers describe ps ds es →
      Entries.keys es = ((ps.zip ds).filter fun (p, d) => p.stores d).map (·.1.fieldName)
  | _, _, _, .nil => rfl
  | _, _, _, .left hp hrest => by
    rw [List.zip_cons_cons, List.filter_cons_of_neg (by simp [hp])]
    exact keys_of_keyedMembers hrest
  | _, _, _, .stored hp _ hrest => by
    rw [List.zip_cons_cons, List.filter_cons_of_pos (by exact hp), List.map_cons,
      ← keys_of_keyedMembers hrest]
    rfl

/-- Only what is writable has an entry. -/
theorem keys_sublist_of_keyedMembers :
    ∀ {ps : List Property} {ds : List Datum} {es : Entries Json},
      Datum.KeyedMembers describe ps ds es →
        (Entries.keys es).Sublist ((ps.filter (·.isWritable)).map (·.fieldName))
  | _, _, _, .nil => List.Sublist.slnil
  | p :: ps, _, _, .left hp hrest => by
    refine (keys_sublist_of_keyedMembers hrest).trans (List.Sublist.map _ ?_)
    exact (List.sublist_cons_self p ps).filter _
  | _, _, _, .stored hp _ hrest => by
    rw [List.filter_cons_of_pos (Bool.and_eq_true _ _ ▸ hp).1, List.map_cons]
    exact (keys_sublist_of_keyedMembers hrest).cons_cons _

theorem hasKeys_of_keyedMembers {definition : EntityDefinition} {d : Descriptor}
    (hd : d.Describes definition) (h : Datum.KeyedMembers describe d.properties ds es) :
    d.HasKeys ds es := by
  have hsub := keys_sublist_of_keyedMembers h
  have hwritable : ∀ key ∈ Entries.keys es, ∃ p ∈ d.properties, p.isWritable = true ∧
      p.fieldName = key := by
    intro key hkey
    obtain ⟨p, hp, hname⟩ := List.mem_map.mp (hsub.subset hkey)
    obtain ⟨hp, hwritable⟩ := List.mem_filter.mp hp
    exact ⟨p, hp, hwritable, hname⟩
  constructor
  case keys_eq => exact keys_of_keyedMembers h
  case nodup =>
    refine hd.nodup_fieldNames.sublist (hsub.trans (List.Sublist.map _ ?_))
    exact List.monotone_filter_right d.properties fun p hp => by rw [hp, Bool.or_true]
  case writable =>
    intro key hkey
    obtain ⟨p, hp, hwritable, hname⟩ := hwritable key hkey
    obtain ⟨hrole, haccess⟩ := Bool.and_eq_true _ _ ▸ hwritable
    refine ⟨p, hp, hname, Access.writes_iff.mp haccess, ?_⟩
    constructor
    · rintro heq
      simp [heq, Role.isOutOfBand] at hrole
    · rintro heq
      simp [heq, Role.isOutOfBand] at hrole
  case readOnly =>
    intro p hp hread hwrite hmem
    obtain ⟨q, hq, hwritable, hname⟩ := hwritable _ hmem
    -- The names of properties that are read or written are distinct.
    have heq : q = p := hd.eq_of_fieldName_eq hq (by rw [hwritable, Bool.or_true]) hp
      (by rw [hread, Bool.true_or]) hname
    rw [heq, hwrite] at hwritable
    cases hwritable

end Members

/-! ## Data -/

section Family

variable {ref : EntityRef} {d : Descriptor} {x : Instance}

/-- An object whose fields are written as they should be is written as it should be. -/
theorem settles_write (hd : family.describe config ref = .ok d)
    (h : List.Forall₂ (Writes family (family.describe config) d.name) d.properties x) :
    Settles ((write family ref x).eval (family.describe config))
      (Datum.nonFiniteMembers (family.describe config) d.name x d.properties)
      fun doc => d.HasKeys x doc.entries ∧
        Datum.KeyedMembers (family.describe config) d.properties x doc.entries := by
  have hdescribes := Descriptor.describes_of_build hd
  have hentries := settles_writeProperties (forall₂_writer h hdescribes.position_eq)
  have heval : (write family ref x).eval (family.describe config) =
      ((writeProperties Writer.atPosition d.name (writers family x) d.properties).eval
        (family.describe config)).map Document.ofEntries := by
    rw [write, Lookup.eval_ask_ok hd, writeObject, ← Lookup.eval_map, map_eq_pure_bind]
  rw [heval]
  apply hentries.map
  intro es hes
  have hkeys := hasKeys_of_keyedMembers hdescribes hes
  -- The keys are distinct, so nothing is merged.
  have hmerge : (Document.ofEntries es).entries = es := Entries.merge_eq_self hkeys.nodup
  rw [hmerge]
  exact ⟨hkeys, hes⟩

mutual

/-- Every datum of the kind of a property is written, up to the first double that JSON has no number
for. -/
theorem writes_datum (hfamily : PlainFamily config family) (entity : String) {p : Property}
    (hp : p.WritesAll) : ∀ (d : Datum) (s : Shape), d.Fits family s →
      s.kind.element = p.kind.element → Writes family (family.describe config) entity p d
  | .absent, _, _, _ => .pure .absent
  | .present d, s, hfits, hkind => by
    obtain ⟨inner, rfl, hinner⟩ := hfits
    exact (writes_datum hfamily entity hp d inner hinner hkind).imp fun _ => .present
  | .vec items, s, hfits, hkind => by
    obtain ⟨element, rfl, hitems⟩ := hfits
    have hall := settles_writeAll hfamily entity hp items element hitems hkind
    rw [Writes, Datum.nonFinite, writer]
    change Settles ((Json.array <$> writeAll entity p (writers family items)).eval _) _ _
    rw [Lookup.eval_map]
    exact hall.map fun js => .vec
  | .entity ref fields, s, hfits, _ => by
    obtain ⟨rfl, href, hfields⟩ := hfits
    -- The embedded object is a document of its own, under the descriptor of its type.
    obtain ⟨d, hd⟩ := hfamily.exists_describe href
    have hdescribes := Descriptor.describes_of_build hd
    have hwrites := forall₂_writes hfamily d.name (family.type ref) fields
      (family.type ref).members d.properties hfields hdescribes.members
      (hfamily.writesAll href hd)
    rw [Writes, eval_write_entity (Datum.length_eq_of_fitsMembers hfields), Lookup.eval_map,
      Datum.nonFinite, hd]
    exact (settles_write hd hwrites).map fun doc hdoc => .entity hd hdoc.1 hdoc.2
  | .double x, s, hfits, hkind | .float x, s, hfits, hkind => by
    obtain ⟨b, hb, rfl⟩ := hfits
    exact settles_double hp hb (b.element_kind ▸ hkind) entity rfl
  | .bool _, s, hfits, hkind | .long _, s, hfits, hkind
  | .integer _, s, hfits, hkind
  | .string _, s, hfits, hkind | .date _, s, hfits, hkind
  | .dateTime _, s, hfits, hkind | .instant _, s, hfits, hkind
  | .join _, s, hfits, hkind | .token _, s, hfits, hkind
  | .json _, s, hfits, hkind => by
    obtain ⟨b, hb, rfl⟩ := hfits
    exact settles_finite hp hb (b.element_kind ▸ hkind) entity (by simp [Datum.toValue])

/-- The items of a list are written in order. -/
theorem settles_writeAll (hfamily : PlainFamily config family) (entity : String) {p : Property}
    (hp : p.WritesAll) : ∀ (ds : List Datum) (s : Shape), Datum.FitsAll family ds s →
      s.kind.element = p.kind.element →
      Settles ((writeAll entity p (writers family ds)).eval (family.describe config))
        (Datum.nonFiniteAll (family.describe config) entity p ds)
        (Datum.KeyedAll (family.describe config) ds)
  | [], _, _, _ => .pure .nil
  | d :: ds, s, hfits, hkind => by
    have hd := writes_datum hfamily entity hp d s hfits.1 hkind
    have hds := settles_writeAll hfamily entity hp ds s hfits.2 hkind
    rw [writers, writeAll, Datum.nonFiniteAll]
    change Settles (((writer family d).write entity p >>= fun j =>
      List.cons j <$> writeAll entity p (writers family ds)).eval _) _ _
    rw [Lookup.eval_bind]
    apply hd.bind
    intro j hj
    rw [Lookup.eval_map]
    exact hds.map fun js => .cons hj

/-- The fields of an object are written, each as one of its property. -/
theorem forall₂_writes (hfamily : PlainFamily config family) (entity : String)
    (type : EntityType) : ∀ (ds : List Datum) (ms : List Member) (ps : List Property),
      Datum.FitsMembers family ds ms → List.Forall₂ (Member.DescribedBy type) ms ps →
      (∀ p ∈ ps, p.WritesAll) →
      List.Forall₂ (Writes family (family.describe config) entity) ps ds
  | [], ms, ps, hfits, hdescribed, hps => by
    cases hdescribed with
    | nil => exact .nil
    | cons hp hrest => exact absurd hfits id
  | d :: ds, ms, ps, hfits, hdescribed, hps => by
    cases hdescribed with
    | nil => exact absurd hfits id
    | @cons m p ms ps hp hrest =>
        obtain ⟨hhead, htail⟩ := List.forall_mem_cons.mp hps
        have hd := writes_datum hfamily entity hhead d m.shape hfits.1 (by rw [hp.kind_eq])
        exact .cons hd (forall₂_writes hfamily entity type ds ms ps hfits.2 hrest htail)

end

end Family

/-- Writing an object succeeds exactly if none of its writable properties holds a double that JSON
has no number for, at any depth; no converter refuses a value. The document then has the entries of
the stored properties and no others. Otherwise the error is that of the first such double. -/
theorem exists_write_iff_nonFinite_eq_nil (c : Context) (hfamily : PlainFamily c.config c.family)
    {ref : EntityRef} (href : ∃ type ∈ c.family.types, type.ref = ref) {x : Instance}
    (hfits : Datum.FitsMembers c.family x (c.family.type ref).members) :
    ∃ d, c.describe ref = .ok d ∧
      (∀ p ∈ d.properties, p.WritesAll) ∧
      ((∃ doc, ((write c.family ref x).run c).1 = .ok doc) ↔
        Datum.nonFiniteMembers c.describe d.name x d.properties = []) ∧
      (∀ doc, ((write c.family ref x).run c).1 = .ok doc →
        d.HasKeys x doc.entries ∧
        Datum.KeyedMembers c.describe d.properties x doc.entries) ∧
      ∀ e, ((write c.family ref x).run c).1 = .error e →
        ∃ o, (Datum.nonFiniteMembers c.describe d.name x d.properties).head? = some o ∧
          e = o.error := by
  obtain ⟨d, hd⟩ := hfamily.exists_describe href
  have hdescribes := Descriptor.describes_of_build hd
  have hproperties := hfamily.writesAll href hd
  have hwrites := forall₂_writes hfamily d.name (c.family.type ref) x (c.family.type ref).members
    d.properties hfits hdescribes.members hproperties
  have hsettles := settles_write hd hwrites
  rw [Lookup.run_fst]
  exact ⟨d, hd, hproperties, hsettles.exists_ok_iff, fun doc => hsettles.good,
    fun e => hsettles.error_eq⟩

end Conversion

/-! ## A series of measurements -/

namespace Library

/-- The reference of sensors. -/
def sensorRef : EntityRef := ⟨3, "Sensor"⟩

/-- The reference of series. -/
def seriesRef : EntityRef := ⟨4, "Series"⟩

/-- A sensor says that it has no unit. -/
def sensor : EntityType where
  ref := sensorRef
  name := "Sensor"
  members := [
    { name := "level", shape := .base .double, initial := .double 0 },
    { name := "unit", shape := .option (.base .string), initial := .absent
      field := .single { storeNullValue := true } }]

/-- A series is a day's list of sensors. -/
def series : EntityType where
  ref := seriesRef
  name := "Series"
  immutable := true
  members := [
    { name := "day", shape := .base .date, initial := .date .epoch
      field := .single { type := .date } },
    { name := "sensors", shape := .vec (.base (.entity sensorRef)), initial := .vec [] },
    { name := "remark", shape := .option (.base .string), initial := .absent },
    { name := "revision", shape := .option (.base .long), initial := .absent
      role := some .version }]

/-- Series under the default configuration. -/
def measurements : Context where
  config := {}
  family := ⟨[series, sensor]⟩

/-- A series of two sensors, the second one at a level. -/
def sampleSeries (level : Float) : Instance :=
  [.date .epoch,
    .vec [.entity sensorRef [.double 20.5, .present (.string "C")],
      .entity sensorRef [.double level, .absent]],
    .absent, .present (.long 1)]

theorem fitsMembers_sampleSeries (level : Float) :
    Datum.FitsMembers measurements.family (sampleSeries level)
      (measurements.family.type seriesRef).members := by
  have htype : measurements.family.type seriesRef = series := rfl
  have hsensor : measurements.family.type sensorRef = sensor := rfl
  have href : ∃ type ∈ measurements.family.types, type.ref = sensorRef :=
    ⟨sensor, List.mem_cons_of_mem _ List.mem_cons_self, rfl⟩
  simp [sampleSeries, htype, hsensor, series, sensor, Datum.FitsMembers, Datum.Fits,
    Datum.FitsAll, Datum.leaf?, href]

theorem plainFamily_measurements : PlainFamily measurements.config measurements.family where
  builds := by
    intro type htype
    simp only [measurements, List.mem_cons, List.not_mem_nil, or_false] at htype
    rcases htype with rfl | rfl
    · exact ⟨_, rfl⟩
    · exact ⟨_, rfl⟩
  converter_eq := by
    intro type htype
    simp only [measurements, List.mem_cons, List.not_mem_nil, or_false] at htype
    rcases htype with rfl | rfl
    · simp [series, FieldSpec.mainField?]
    · simp [sensor, FieldSpec.mainField?]

end Library

namespace Conversion

open Library

theorem exists_write_iff_nonFinite_eq_nil_series :
    (∃ doc, ((write measurements.family seriesRef (sampleSeries 19.5)).run measurements).1 =
      .ok doc ∧ Entries.keys doc.entries = ["day", "sensors"]) ∧
    ((write measurements.family seriesRef (sampleSeries (Float.ofBits 0x7ff8000000000000))).run
      measurements).1 = .error (.conversion "Sensor" "level" "null" ⟨.finiteNumber, "NaN"⟩) := by
  have href : ∃ type ∈ measurements.family.types, type.ref = seriesRef :=
    ⟨series, List.mem_cons_self, rfl⟩
  constructor
  · obtain ⟨d, hd, -, hok, hkeys, -⟩ := exists_write_iff_nonFinite_eq_nil measurements
      plainFamily_measurements href (fitsMembers_sampleSeries 19.5)
    cases hd
    obtain ⟨doc, hdoc⟩ := hok.mpr rfl
    exact ⟨doc, hdoc, (hkeys doc hdoc).1.keys_eq⟩
  · obtain ⟨d, hd, -, hok, -, herror⟩ := exists_write_iff_nonFinite_eq_nil measurements
      plainFamily_measurements href (fitsMembers_sampleSeries (Float.ofBits 0x7ff8000000000000))
    cases hd
    cases hresult : ((write measurements.family seriesRef
        (sampleSeries (Float.ofBits 0x7ff8000000000000))).run measurements).1 with
    | ok doc => cases hok.mp ⟨doc, hresult⟩
    | error e =>
        obtain ⟨o, ho, rfl⟩ := herror e hresult
        cases ho
        rfl

end Conversion

end ObjectDocument
