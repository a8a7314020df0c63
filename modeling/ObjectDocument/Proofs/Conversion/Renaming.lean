import ObjectDocument.Proofs.Conversion.Metadata
import ObjectDocument.Proofs.Conversion.RoundTrip
import ObjectDocument.Proofs.Descriptor.Renaming

/-!
# Conversions under other naming strategies

An object is written under two configurations, and each document is read under its own one. Both runs
ask for the same descriptors, which differ in wire names only. Main statement: the runs go alike
from beginning to end. They fail with the same error, or the documents have the same values under the
wire names of the same properties, and what is read of them is the same.
-/

namespace ObjectDocument

section Describe

variable (describe describe' : EntityRef → Except Error Descriptor)

mutual

/-- JSON values of a kind that are the same but for the wire names in embedded objects. -/
inductive Renamed : Kind → Json → Json → Prop
  | null (kind : Kind) : Renamed kind .null .null
  | single {kind : Kind} (hcollection : kind.isCollection = false) (hentity : kind.entity? = none)
      (j : Json) : Renamed kind j j
  | array {element : Kind} {js js' : List Json} (hitems : RenamedItems element js js') :
      Renamed (.list element) (.array js) (.array js')
  | object {ref : EntityRef} {d d' : Descriptor} {es es' : Entries Json}
      (hd : describe ref = .ok d) (hd' : describe' ref = .ok d')
      (hentries : RenamedEntries d.properties d'.properties es es') :
      Renamed (.entity ref) (.object es) (.object es')

/-- Arrays whose items are the same but for the wire names in embedded objects. -/
inductive RenamedItems : Kind → List Json → List Json → Prop
  | nil (kind : Kind) : RenamedItems kind [] []
  | cons {kind : Kind} {j j' : Json} {js js' : List Json} (hj : Renamed kind j j')
      (hitems : RenamedItems kind js js') : RenamedItems kind (j :: js) (j' :: js')

/-- Entries that belong to the same properties, one after another in order of declaration, with
values that are the same but for the wire names in embedded objects. -/
inductive RenamedEntries : List Property → List Property → Entries Json → Entries Json → Prop
  | nil : RenamedEntries [] [] [] []
  | left {p p' : Property} {ps ps' : List Property} {es es' : Entries Json} (hp : p.Renames p')
      (hrest : RenamedEntries ps ps' es es') : RenamedEntries (p :: ps) (p' :: ps') es es'
  | entry {p p' : Property} {ps ps' : List Property} {es es' : Entries Json} {j j' : Json}
      (hp : p.Renames p') (hwritable : p.isWritable = true) (hj : Renamed p.kind j j')
      (hrest : RenamedEntries ps ps' es es') :
      RenamedEntries (p :: ps) (p' :: ps') ((p.fieldName, j) :: es) ((p'.fieldName, j') :: es')

end

end Describe

namespace Property.Renames

variable {p p' : Property}

theorem kind_eq (h : p.Renames p') : p'.kind = p.kind := by
  rw [h.eq]

theorem isReadable_eq (h : p.Renames p') : p'.isReadable = p.isReadable := by
  rw [h.eq]
  rfl

theorem isWritable_eq (h : p.Renames p') : p'.isWritable = p.isWritable := by
  rw [h.eq]
  rfl

end Property.Renames

namespace Conversion

variable {family : Family} {config config' : Config}

/-! ## Keys -/

section Keys

variable {describe describe' : EntityRef → Except Error Descriptor} {p : Property}
  {ps : List Property} {es all : Entries Json} {j : Json}

/-- The keys on either side are wire names of the properties on that side. -/
theorem keys_sublist_of_renamedEntries :
    ∀ {ps ps' : List Property} {es es' : Entries Json},
      RenamedEntries describe describe' ps ps' es es' →
        (Entries.keys es).Sublist (wireNames ps) ∧ (Entries.keys es').Sublist (wireNames ps')
  | _, _, _, _, .nil => ⟨List.Sublist.slnil, List.Sublist.slnil⟩
  | p :: ps, p' :: ps', _, _, .left _ hrest => by
    obtain ⟨hkeys, hkeys'⟩ := keys_sublist_of_renamedEntries hrest
    exact ⟨hkeys.trans (wireNames_sublist p ps), hkeys'.trans (wireNames_sublist p' ps')⟩
  | p :: ps, p' :: ps', _, _, .entry hp hwritable _ hrest => by
    obtain ⟨hkeys, hkeys'⟩ := keys_sublist_of_renamedEntries hrest
    rw [wireNames_cons_of_isWritable hwritable,
      wireNames_cons_of_isWritable (hp.isWritable_eq.trans hwritable)]
    exact ⟨hkeys.cons_cons p.fieldName, hkeys'.cons_cons p'.fieldName⟩

/-- Whether some entries have the fields of readable properties that all entries of a source have. -/
def Supply (all es : Entries Json) (ps : List Property) : Prop :=
  ∀ p ∈ ps, p.isReadable = true → Entries.get? p.fieldName all = Entries.get? p.fieldName es

/-- A property that has no entry has no field, as the entries have the names of other properties. -/
theorem Supply.left (h : Supply all es (p :: ps)) (hnodup : (wireNames (p :: ps)).Nodup)
    (hkeys : (Entries.keys es).Sublist (wireNames ps)) :
    Supply all es ps ∧ (p.isReadable = true → Entries.get? p.fieldName all = none) := by
  refine ⟨fun q hq => h q (List.mem_cons_of_mem p hq), fun hread => ?_⟩
  rw [wireNames_cons_kept hread, List.nodup_cons] at hnodup
  rw [h p List.mem_cons_self hread, Entries.get?_eq_none_iff]
  exact fun hmem => hnodup.1 (hkeys.subset hmem)

/-- The first entry is the field of its property and of no other. -/
theorem Supply.entry (h : Supply all ((p.fieldName, j) :: es) (p :: ps))
    (hnodup : (wireNames (p :: ps)).Nodup) (hwritable : p.isWritable = true) :
    Supply all es ps ∧ (p.isReadable = true → Entries.get? p.fieldName all = some j) := by
  constructor
  · intro q hq hread
    rw [wireNames_cons_of_isWritable hwritable, List.nodup_cons] at hnodup
    have hne : p.fieldName ≠ q.fieldName := fun heq => hnodup.1 (heq ▸ mem_wireNames hq hread)
    rw [h q (List.mem_cons_of_mem p hq) hread, Entries.get?, if_neg hne]
  · intro hread
    rw [h p List.mem_cons_self hread, Entries.get?, if_pos rfl]

end Keys

/-! ## Writing -/

/-- Whether a datum is written alike under both configurations, as one of a property under whatever
wire names. -/
def WritesAlike (family : Family) (config config' : Config) (kind : Kind) (w : Writer) : Prop :=
  ∀ (entity : String) (p p' : Property), p.Renames p' →
    SameOutcome (Renamed (family.describe config) (family.describe config') kind)
      ((w.write entity p).eval (family.describe config))
      ((w.write entity p').eval (family.describe config'))

theorem writesAlike_null (kind : Kind) : WritesAlike family config config' kind .null :=
  fun _ _ _ _ => .ok (.null kind)

/-- A single value is written without a look at any wire name. -/
theorem writesAlike_leaf {d : Datum} {b : Base} (hd : d.leaf? = some b) :
    WritesAlike family config config' b.kind (writer family d) := by
  intro entity p p' hp
  have hcollection : b.kind.isCollection = false := by cases b <;> rfl
  have hentity : b.kind.entity? = none := by
    cases b with
    | entity ref => cases d <;> cases hd
    | _ => rfl
  rw [writer_leaf hd, hp.eq]
  change SameOutcome _ (writeLeaf entity p d.toValue) (writeLeaf entity p d.toValue)
  cases writeLeaf entity p d.toValue with
  | ok j => exact .ok (.single hcollection hentity j)
  | error e => exact .error e

/-- The properties of an object are written alike, one after another. -/
theorem sameOutcome_writeProperties (entity : String) {ws : List Writer} {ps ps' : List Property}
    (hps : List.Forall₂ Property.Renames ps ps')
    (hws : ∀ p ∈ ps, WritesAlike family config config' p.kind ((ws[p.position]?).getD .null)) :
    SameOutcome (RenamedEntries (family.describe config) (family.describe config') ps ps')
      ((writeProperties Writer.atPosition entity ws ps).eval (family.describe config))
      ((writeProperties Writer.atPosition entity ws ps').eval (family.describe config')) := by
  induction hps with
  | nil => exact .ok .nil
  | @cons p p' ps ps' hp hps ih =>
      obtain ⟨hw, hws⟩ := List.forall_mem_cons.mp hws
      have hrest := ih hws
      have hposition : p'.position = p.position := by rw [hp.eq]
      have hstores : p'.storesNull = p.storesNull := by rw [hp.eq]; rfl
      rw [writeProperties, writeProperties, Writer.atPosition, Writer.atPosition, hp.isWritable_eq,
        hposition, hstores]
      cases hwritable : p.isWritable with
      | false => exact hrest.imp fun es es' hes => .left hp hes
      | true =>
          simp only [if_true]
          split
          · exact hrest.imp fun es es' hes => .left hp hes
          · simp only [Lookup.eval_bind, Lookup.eval_pure]
            refine (hw entity p p' hp).bind fun j j' hj => ?_
            exact hrest.bind fun es es' hes => .ok (.entry hp hwritable hj hes)

/-- An object is written alike if its fields are. -/
theorem sameOutcome_write {ref : EntityRef} {d d' : Descriptor}
    (hd : family.describe config ref = .ok d) (hd' : family.describe config' ref = .ok d')
    {x : Instance} (hx : List.Forall₂ (fun e m => WritesAlike family config config' m.shape.kind
      (writer family e)) x (family.type ref).members) :
    SameOutcome (fun doc doc' => RenamedEntries (family.describe config) (family.describe config')
        d.properties d'.properties doc.entries doc'.entries)
      ((write family ref x).eval (family.describe config))
      ((write family ref x).eval (family.describe config')) := by
  have hdescribes := Descriptor.describes_of_build hd
  have hrenames := Descriptor.renames_of_build hd hd'
  have hws : ∀ p ∈ d.properties, WritesAlike family config config' p.kind
      (((writers family x)[p.position]?).getD .null) := by
    intro p hp
    obtain ⟨i, hi⟩ := List.getElem?_of_mem hp
    rw [hdescribes.position_eq i p hi, writers_eq_map, List.getElem?_map]
    cases he : x[i]? with
    | none => exact writesAlike_null p.kind
    | some e =>
        obtain ⟨m, hm, hwrites⟩ := exists_getElem?_of_forall₂ hx he
        obtain ⟨hlength, hdescribed⟩ := forall₂_iff_getElem?.mp hdescribes.members
        rw [(hdescribed i m p hm hi).kind_eq]
        exact hwrites
  have hentries := sameOutcome_writeProperties d.name hrenames.properties hws
  rw [write, Lookup.eval_ask_ok hd, Lookup.eval_ask_ok hd', writeObject, writeObject,
    hrenames.name_eq]
  simp only [Lookup.eval_bind, Lookup.eval_pure]
  refine hentries.bind fun es es' hes => .ok ?_
  -- Wire names are distinct under either configuration, so nothing is merged.
  have hdescribes' := Descriptor.describes_of_build hd'
  obtain ⟨hkeys, hkeys'⟩ := keys_sublist_of_renamedEntries hes
  have hmerge : (Document.ofEntries es).entries = es :=
    Entries.merge_eq_self (hdescribes.nodup_fieldNames.sublist hkeys)
  have hmerge' : (Document.ofEntries es').entries = es' :=
    Entries.merge_eq_self (hdescribes'.nodup_fieldNames.sublist hkeys')
  rw [hmerge, hmerge']
  exact hes

mutual

theorem writesAlike_datum
    (hbuilds : ∀ type ∈ family.types, ∃ d, family.describe config type.ref = .ok d)
    (hbuilds' : ∀ type ∈ family.types, ∃ d, family.describe config' type.ref = .ok d) :
    ∀ (d : Datum) (s : Shape), d.Fits family s →
      WritesAlike family config config' s.kind (writer family d)
  | .absent, s, _ => writesAlike_null s.kind
  | .present d, s, hfits => by
    obtain ⟨inner, rfl, hinner⟩ := hfits
    exact writesAlike_datum hbuilds hbuilds' d inner hinner
  | .vec items, s, hfits => by
    obtain ⟨element, rfl, hitems⟩ := hfits
    intro entity p p' hp
    have hall := sameOutcome_writeAll hbuilds hbuilds' items element hitems entity hp
    rw [writer]
    simp only [Lookup.eval_bind, Lookup.eval_pure]
    exact hall.bind fun js js' hjs => .ok (.array hjs)
  | .entity ref fields, s, hfits => by
    obtain ⟨rfl, ⟨type, htype, rfl⟩, hfields⟩ := hfits
    obtain ⟨d, hd⟩ := hbuilds type htype
    obtain ⟨d', hd'⟩ := hbuilds' type htype
    intro entity p p' hp
    have hlength := Datum.length_eq_of_fitsMembers hfields
    have hwrites := sameOutcome_write hd hd' (writesAlike_fields hbuilds hbuilds' fields _ hfields)
    rw [eval_write_entity hlength, eval_write_entity hlength, Lookup.eval_map, Lookup.eval_map]
    exact hwrites.map fun doc doc' hdoc => .object hd hd' hdoc
  | .bool _, s, hfits | .long _, s, hfits | .integer _, s, hfits | .double _, s, hfits
  | .float _, s, hfits | .string _, s, hfits | .date _, s, hfits | .dateTime _, s, hfits
  | .instant _, s, hfits | .join _, s, hfits | .token _, s, hfits | .json _, s, hfits => by
    obtain ⟨b, hb, rfl⟩ := hfits
    exact writesAlike_leaf hb

theorem sameOutcome_writeAll
    (hbuilds : ∀ type ∈ family.types, ∃ d, family.describe config type.ref = .ok d)
    (hbuilds' : ∀ type ∈ family.types, ∃ d, family.describe config' type.ref = .ok d) :
    ∀ (ds : List Datum) (s : Shape), Datum.FitsAll family ds s →
      ∀ (entity : String) {p p' : Property}, p.Renames p' →
        SameOutcome (RenamedItems (family.describe config) (family.describe config') s.kind)
          ((writeAll entity p (writers family ds)).eval (family.describe config))
          ((writeAll entity p' (writers family ds)).eval (family.describe config'))
  | [], s, _, _, _, _, _ => .ok (.nil s.kind)
  | d :: ds, s, hfits, entity, p, p', hp => by
    have hd := writesAlike_datum hbuilds hbuilds' d s hfits.1 entity p p' hp
    have hds := sameOutcome_writeAll hbuilds hbuilds' ds s hfits.2 entity hp
    rw [writers, writeAll, writeAll]
    simp only [Lookup.eval_bind, Lookup.eval_pure]
    refine hd.bind fun j j' hj => ?_
    exact hds.bind fun js js' hjs => .ok (.cons hj hjs)

theorem writesAlike_fields
    (hbuilds : ∀ type ∈ family.types, ∃ d, family.describe config type.ref = .ok d)
    (hbuilds' : ∀ type ∈ family.types, ∃ d, family.describe config' type.ref = .ok d) :
    ∀ (ds : List Datum) (ms : List Member), Datum.FitsMembers family ds ms →
      List.Forall₂ (fun e m => WritesAlike family config config' m.shape.kind (writer family e))
        ds ms
  | [], [], _ => .nil
  | [], _ :: _, hfits => absurd hfits id
  | _ :: _, [], hfits => absurd hfits id
  | d :: ds, m :: ms, hfits =>
    .cons (writesAlike_datum hbuilds hbuilds' d m.shape hfits.1)
      (writesAlike_fields hbuilds hbuilds' ds ms hfits.2)

end

/-! ## Reading -/

/-- A value that is neither a list nor an object of its own is read without a look at any wire
name. -/
theorem eval_reader_single {kind : Kind} (hcollection : kind.isCollection = false)
    (hentity : kind.entity? = none) (j : Json) (entity : String) {p p' : Property}
    (hp : p.Renames p') : (reader family j entity p kind).eval (family.describe config) =
      (reader family j entity p' kind).eval (family.describe config') := by
  rw [hp.eq]
  cases kind with
  | list element => cases hcollection
  | entity ref => cases hentity
  | _ => cases j with
    | _ => rfl

mutual

theorem eval_reader_of_renamed (entity : String) {p p' : Property} (hp : p.Renames p')
    {kind : Kind} {j j' : Json} :
    Renamed (family.describe config) (family.describe config') kind j j' →
      (reader family j entity p kind).eval (family.describe config) =
        (reader family j' entity p' kind).eval (family.describe config')
  | .null _ => rfl
  | .single hcollection hentity j => eval_reader_single hcollection hentity j entity hp
  | .array hitems => by
    rw [reader, reader]
    simp only [Lookup.eval_bind, eval_readAll_of_renamed entity hp hitems, Lookup.eval_pure]
  | @Renamed.object _ _ ref d d' es es' hd hd' hentries => by
    have hvalues := eval_readProperties_of_renamed d.name hentries
      (Descriptor.describes_of_build hd).nodup_fieldNames
      (Descriptor.describes_of_build hd').nodup_fieldNames (fun _ _ _ => rfl) fun _ _ _ => rfl
    have hmake (vs : Entries Value) :
        (instantiateEmbedded family ref vs).eval (family.describe config) =
          (instantiateEmbedded family ref vs).eval (family.describe config') := by
      rw [instantiateEmbedded, Lookup.eval_ask_ok hd, Lookup.eval_ask_ok hd']
      rfl
    rw [reader_object, reader_object, readEmbedded, readEmbedded, Lookup.eval_ask_ok hd,
      Lookup.eval_ask_ok hd', Lookup.eval_bind, Lookup.eval_bind,
      (Descriptor.renames_of_build hd hd').name_eq, hvalues]
    simp only [hmake]

theorem eval_readAll_of_renamed (entity : String) {p p' : Property} (hp : p.Renames p')
    {kind : Kind} {js js' : List Json} :
    RenamedItems (family.describe config) (family.describe config') kind js js' →
      (readAll entity p kind (readers family js)).eval (family.describe config) =
        (readAll entity p' kind (readers family js')).eval (family.describe config')
  | .nil _ => rfl
  | .cons hj hitems => by
    rw [readers, readers, readAll, readAll]
    simp only [Lookup.eval_bind, Lookup.eval_pure, eval_reader_of_renamed entity hp hj,
      eval_readAll_of_renamed entity hp hitems]

theorem eval_readProperties_of_renamed (entity : String) {ps ps' : List Property}
    {es es' all all' : Entries Json} :
    RenamedEntries (family.describe config) (family.describe config') ps ps' es es' →
      (wireNames ps).Nodup → (wireNames ps').Nodup → Supply all es ps → Supply all' es' ps' →
      (readProperties entity (entryReaders family all) ps).eval (family.describe config) =
        (readProperties entity (entryReaders family all') ps').eval (family.describe config')
  | .nil, _, _, _, _ => rfl
  | .left hp hrest, hnodup, hnodup', hall, hall' => by
    obtain ⟨hkeys, hkeys'⟩ := keys_sublist_of_renamedEntries hrest
    obtain ⟨hsupply, hnone⟩ := hall.left hnodup hkeys
    obtain ⟨hsupply', hnone'⟩ := hall'.left hnodup' hkeys'
    have htail := eval_readProperties_of_renamed entity hrest
      (hnodup.sublist (wireNames_sublist _ _)) (hnodup'.sublist (wireNames_sublist _ _))
      hsupply hsupply'
    rw [readProperties, readProperties, hp.isReadable_eq]
    split
    next hread =>
      rw [get?_entryReaders, get?_entryReaders, hnone hread,
        hnone' (hp.isReadable_eq.trans hread)]
      exact htail
    next => exact htail
  | .entry hp hwritable hj hrest, hnodup, hnodup', hall, hall' => by
    obtain ⟨hsupply, hsome⟩ := hall.entry hnodup hwritable
    obtain ⟨hsupply', hsome'⟩ := hall'.entry hnodup' (hp.isWritable_eq.trans hwritable)
    have htail := eval_readProperties_of_renamed entity hrest
      (hnodup.sublist (wireNames_sublist _ _)) (hnodup'.sublist (wireNames_sublist _ _))
      hsupply hsupply'
    have hhead := eval_reader_of_renamed entity hp hj
    rw [readProperties, readProperties, hp.isReadable_eq]
    split
    next hread =>
      rw [get?_entryReaders, get?_entryReaders, hsome hread,
        hsome' (hp.isReadable_eq.trans hread)]
      simp only [Option.map_some, Lookup.eval_bind, Lookup.eval_pure, hp.kind_eq, hp.name_eq,
        hhead, htail]
    next => exact htail

end

section Read

variable {ref : EntityRef} {d d' : Descriptor}

/-- Metadata are given to members under declared names. -/
theorem withId_renames (h : d.Renames d') (found found' : SearchDocument)
    (heq : found'.id = found.id) (vs : Entries Value) :
    withId d' found' vs = withId d found vs := by
  have hid := h.withRole? .id
  rw [withId, withId, Descriptor.id?, Descriptor.id?, h.name_eq, heq]
  generalize d.withRole? .id = p?, d'.withRole? .id = p?' at hid ⊢
  cases hid with
  | none => rfl
  | some hp =>
      rw [hp.eq]
      cases found.id with
      | none => rfl
      | some id => rfl

theorem byName_partOf_renames (h : d.Renames d') (role : Role) (value : Option Value) :
    byName (partOf d' role value) = byName (partOf d role value) := by
  have hrole := h.withRole? role
  rw [partOf, partOf]
  generalize d.withRole? role = p?, d'.withRole? role = p?' at hrole ⊢
  cases hrole with
  | none => rfl
  | some hp =>
      rw [hp.eq]
      cases value with
      | none => rfl
      | some v => rfl

theorem withVersion_renames (h : d.Renames d') (found found' : SearchDocument)
    (heq : found'.version = found.version) (vs : Entries Value) :
    withVersion d' found' vs = withVersion d found vs := by
  rw [withVersion_eq, withVersion_eq, versionPart, versionPart, heq, byName_partOf_renames h]

theorem withToken_renames (h : d.Renames d') (found found' : SearchDocument)
    (heq : found'.token? = found.token?) (vs : Entries Value) :
    withToken d' found' vs = withToken d found vs := by
  rw [withToken_eq, withToken_eq, tokenPart, tokenPart, heq, byName_partOf_renames h]

/-- Documents that are the same but for wire names are read alike, each under its own
configuration and with whatever metadata. -/
theorem eval_read_of_renamed (hd : family.describe config ref = .ok d)
    (hd' : family.describe config' ref = .ok d') {doc doc' : Document}
    (h : RenamedEntries (family.describe config) (family.describe config') d.properties
      d'.properties doc.entries doc'.entries) (found : SearchDocument) :
    (read family ref { found with source := doc }).eval (family.describe config) =
      (read family ref { found with source := doc' }).eval (family.describe config') := by
  have hrenames := Descriptor.renames_of_build hd hd'
  have hvalues := eval_readProperties_of_renamed d.name h
    (Descriptor.describes_of_build hd).nodup_fieldNames
    (Descriptor.describes_of_build hd').nodup_fieldNames (fun _ _ _ => rfl) fun _ _ _ => rfl
  rw [read, read, Lookup.eval_ask_ok hd, Lookup.eval_ask_ok hd', Lookup.eval_bind,
    Lookup.eval_bind, hrenames.name_eq, hvalues]
  -- The metadata do not depend on the body.
  have hid (vs : Entries Value) := withId_renames hrenames { found with source := doc }
    { found with source := doc' } rfl vs
  have hversion (vs : Entries Value) := withVersion_renames hrenames { found with source := doc }
    { found with source := doc' } rfl vs
  have htoken (vs : Entries Value) := withToken_renames hrenames { found with source := doc }
    { found with source := doc' } rfl vs
  refine congrArg (_ >>= ·) (funext fun vs => ?_)
  simp only [hid, hversion, htoken]
  cases withId d { found with source := doc } (Entries.merge vs) with
  | ok vs => rfl
  | error e => rfl

end Read

/-! ## Both directions -/

theorem length_eq_of_renamedEntries {describe describe' : EntityRef → Except Error Descriptor} :
    ∀ {ps ps' : List Property} {es es' : Entries Json},
      RenamedEntries describe describe' ps ps' es es' → es.length = es'.length
  | _, _, _, _, .nil => rfl
  | _, _, _, _, .left _ hrest => length_eq_of_renamedEntries hrest
  | _, _, _, _, .entry _ _ _ hrest => congrArg (· + 1) (length_eq_of_renamedEntries hrest)

/-- A naming strategy, or whatever else a configuration says, does nothing but rename. An object is
written with the same error under two configurations, or to documents that are the same but for wire
names, at every depth; a declared wire name is the same in both. Either document is read under its own
configuration, beside whatever metadata, with the same result. -/
theorem write_read_renamed (c c' : Context) (hfamily : c'.family = c.family)
    (hbuilds : ∀ type ∈ c.family.types, ∃ d, c.describe type.ref = .ok d)
    (hbuilds' : ∀ type ∈ c'.family.types, ∃ d, c'.describe type.ref = .ok d)
    {ref : EntityRef} (href : ∃ type ∈ c.family.types, type.ref = ref) {x : Instance}
    (hfits : Datum.FitsMembers c.family x (c.family.type ref).members) :
    ∃ d d', c.describe ref = .ok d ∧ c'.describe ref = .ok d' ∧ d.Renames d' ∧
      SameOutcome (fun doc doc' => doc.size = doc'.size ∧
          RenamedEntries c.describe c'.describe d.properties d'.properties doc.entries doc'.entries ∧
          ∀ found : SearchDocument,
            ((read c.family ref { found with source := doc }).run c).1 =
              ((read c'.family ref { found with source := doc' }).run c').1)
        ((write c.family ref x).run c).1 ((write c'.family ref x).run c').1 := by
  obtain ⟨config, family, slots, built, sound⟩ := c
  obtain ⟨config', family', slots', built', sound'⟩ := c'
  obtain rfl : family' = family := hfamily
  obtain ⟨type, htype, rfl⟩ := href
  obtain ⟨d, hd⟩ := hbuilds type htype
  obtain ⟨d', hd'⟩ := hbuilds' type htype
  refine ⟨d, d', hd, hd', Descriptor.renames_of_build hd hd', ?_⟩
  simp only [Lookup.run_fst]
  have hwrites := sameOutcome_write hd hd'
    (writesAlike_fields hbuilds hbuilds' x (family'.type type.ref).members hfits)
  refine hwrites.imp fun doc doc' hdoc => ?_
  exact ⟨length_eq_of_renamedEntries hdoc, hdoc, eval_read_of_renamed hd hd' hdoc⟩

end Conversion

/-! ## Loans -/

namespace Library

/-- The reference of borrowers. -/
def borrowerRef : EntityRef := ⟨16, "Borrower"⟩

/-- The reference of loans. -/
def loanRef : EntityRef := ⟨17, "Loan"⟩

/-- The number of a borrower's card has a wire name of its own. -/
def borrower : EntityType where
  ref := borrowerRef
  name := "Borrower"
  immutable := true
  members := [
    { name := "fullName", shape := .base .string, initial := .string "" },
    { name := "cardNumber", shape := .base .string, initial := .string ""
      field := .single { name := some "cardNo" } }]

/-- A loan is one to a borrower, until a day. -/
def loan : EntityType where
  ref := loanRef
  name := "Loan"
  members := [
    { name := "loanedTo", shape := .option (.base (.entity borrowerRef)), initial := .absent },
    { name := "dueDate", shape := .base .date, initial := .date .epoch }]

/-- Loans under a naming strategy. -/
def loans (naming : NamingStrategy) : Context where
  config := { naming := naming }
  family := ⟨[loan, borrower]⟩

/-- A loan to a borrower. -/
def sampleLoan : Instance :=
  [.present (.entity borrowerRef [.string "Ann", .string "7"]), .date .epoch]

theorem exists_describe_loans (naming : NamingStrategy)
    (hnaming : naming = .identity ∨ naming = .snakeCase) (type : EntityType)
    (htype : type ∈ (loans naming).family.types) :
    ∃ d, (loans naming).describe type.ref = .ok d := by
  simp only [loans, List.mem_cons, List.not_mem_nil, or_false] at htype
  rcases htype with rfl | rfl <;> rcases hnaming with rfl | rfl <;> exact ⟨_, rfl⟩

end Library

namespace Conversion

open Library

theorem write_read_renamed_sampleLoan : ∃ doc doc',
    ((write (loans .identity).family loanRef sampleLoan).run (loans .identity)).1 = .ok doc ∧
    ((write (loans .snakeCase).family loanRef sampleLoan).run (loans .snakeCase)).1 = .ok doc' ∧
    Entries.keys doc.entries = ["loanedTo", "dueDate"] ∧
    Entries.keys doc'.entries = ["loaned_to", "due_date"] ∧
    ((read (loans .identity).family loanRef { source := doc }).run (loans .identity)).1 =
      ((read (loans .snakeCase).family loanRef { source := doc' }).run (loans .snakeCase)).1 := by
  have hfits : Datum.FitsMembers (loans .identity).family sampleLoan
      ((loans .identity).family.type loanRef).members := by
    have hloan : (loans .identity).family.type loanRef = loan := rfl
    have hborrower : (loans .identity).family.type borrowerRef = borrower := rfl
    have href : ∃ type ∈ (loans .identity).family.types, type.ref = borrowerRef :=
      ⟨borrower, List.mem_cons_of_mem _ List.mem_cons_self, rfl⟩
    simp [sampleLoan, hloan, hborrower, loan, borrower, Datum.FitsMembers, Datum.Fits, Datum.leaf?,
      href]
  have href : ∃ type ∈ (loans .identity).family.types, type.ref = loanRef :=
    ⟨loan, List.mem_cons_self, rfl⟩
  obtain ⟨d, d', -, -, -, hsame⟩ := write_read_renamed (loans .identity) (loans .snakeCase) rfl
    (exists_describe_loans .identity (.inl rfl)) (exists_describe_loans .snakeCase (.inr rfl))
    href hfits
  obtain ⟨doc, hdoc⟩ : ∃ doc, ((write (loans .identity).family loanRef sampleLoan).run
      (loans .identity)).1 = .ok doc := ⟨_, rfl⟩
  obtain ⟨doc', hdoc'⟩ : ∃ doc, ((write (loans .snakeCase).family loanRef sampleLoan).run
      (loans .snakeCase)).1 = .ok doc := ⟨_, rfl⟩
  rw [hdoc, hdoc'] at hsame
  cases hsame with
  | ok h =>
      refine ⟨doc, doc', hdoc, hdoc', ?_, ?_, h.2.2 {}⟩
      · cases hdoc
        rfl
      · cases hdoc'
        rfl

end Conversion

end ObjectDocument
