import ObjectDocument.Proofs.Conversion.Embedding
import ObjectDocument.Proofs.Descriptor.Errors
import ObjectDocument.Proofs.Index.Unfolding

/-!
# Errors of conversions

Once the descriptors of a family are built, no operation fails because of the configuration any
more. What can still go wrong is a value, an argument that is missing, a property that cannot be
changed or the name of an index, and an error about a property names one that its entity declares.
-/

namespace ObjectDocument

/-- Whether a type of the family has a name and declares a property. -/
def Family.Declares (family : Family) (entity property : String) : Prop :=
  ∃ type ∈ family.types, type.name = entity ∧ ∃ m ∈ type.members, m.name = property

/-- The errors that conversions of the objects of a family end with. -/
inductive Error.IsOperational (family : Family) : Error → Prop
  | conversion {entity property : String} (h : family.Declares entity property) (value : String)
      (reason : Mismatch) : Error.IsOperational family (.conversion entity property value reason)
  | missingArgument {entity property : String} (h : family.Declares entity property) :
      Error.IsOperational family (.missingArgument entity property)
  | readOnlyProperty {entity property : String} (h : family.Declares entity property) :
      Error.IsOperational family (.readOnlyProperty entity property)
  | missingIndexName {type : EntityType} (h : type ∈ family.types) :
      Error.IsOperational family (.missingIndexName type.name)
  | unresolvedExpression (expression : String) :
      Error.IsOperational family (.unresolvedExpression expression)

theorem Error.IsOperational.isConfiguration_eq {family : Family} {e : Error}
    (h : e.IsOperational family) : e.isConfiguration = false := by
  cases h with
  | _ => rfl

/-- Whether all errors of a step are ones that conversions end with. -/
abbrev FailsOperationally (family : Family) {α : Type} (x : Except Error α) : Prop :=
  FailsWith (Error.IsOperational family) x

/-! ## Objects -/

namespace EntityType

variable {family : Family} {type : EntityType}
  (htype : ∀ m ∈ type.members, family.Declares type.name m.name)

include htype

theorem failsWith_convert {m : Member} (hm : m ∈ type.members) (v : Value) :
    FailsOperationally family (type.convert m v) := by
  rw [convert]
  split
  · exact .ok _
  · exact .error (.conversion (htype m hm) _ _)

theorem failsWith_set (x : Instance) (name : String) (v : Value) :
    FailsOperationally family (type.set x name v) := by
  rw [set]
  split
  next => exact .ok x
  next i _ =>
    split
    next => exact .ok x
    next m hm =>
      split
      next => exact (failsWith_convert htype (List.mem_of_getElem? hm) v).map
      next => exact .ok x

theorem failsWith_setAll (x : Instance) (vs : Entries Value) :
    FailsOperationally family (type.setAll x vs) := by
  induction vs generalizing x with
  | nil => exact .ok x
  | cons e vs ih =>
      obtain ⟨name, v⟩ := e
      exact (failsWith_set htype x name v).bind fun y => ih y

theorem failsWith_argument (values : Entries Value) {m : Member} (hm : m ∈ type.members) :
    FailsOperationally family (type.argument values m) := by
  have habsent : FailsOperationally family (argument.absent type m) := by
    rw [argument.absent]
    split
    · exact .ok _
    · exact .error (.missingArgument (htype m hm))
  rw [argument]
  split
  · exact .ok _
  · split
    · split
      · exact habsent
      · exact failsWith_convert htype hm _
    · exact habsent

theorem failsWith_instantiate (values : Entries Value) :
    FailsOperationally family (type.instantiate values) := by
  rw [instantiate]
  split
  · exact .mapM fun m hm => failsWith_argument htype values hm
  · exact failsWith_setAll htype type.fresh values

/-- Only the change of a member that there is has been asked for. -/
theorem failsWith_withValue (x : Instance) {name : String}
    (hname : ∃ m ∈ type.members, m.name = name) (v : Value) :
    FailsOperationally family (type.withValue x name v) := by
  obtain ⟨m, hm, rfl⟩ := hname
  rw [withValue]
  split
  next hfind =>
    have hne := List.find?_eq_none.mp hfind m hm
    simp at hne
  next n _ =>
    split
    · exact failsWith_instantiate htype _
    · split
      · exact failsWith_set htype x m.name v
      · exact .error (.readOnlyProperty (htype m hm))

end EntityType

namespace Conversion

variable {family : Family} {config : Config} {ref : EntityRef} {d : Descriptor}

/-- Only types of the family have members. -/
theorem declares_of_member {m : Member} (hm : m ∈ (family.type ref).members) :
    family.Declares (family.type ref).name m.name := by
  refine ⟨family.type ref, ?_, rfl, m, hm, rfl⟩
  cases hfind : family.types.find? fun t => t.ref = ref with
  | none =>
      rw [Family.type, hfind] at hm
      cases hm
  | some type =>
      rw [Family.type, hfind]
      exact List.mem_of_find?_eq_some hfind

theorem declares_of_mem (hd : family.describe config ref = .ok d) {p : Property}
    (hp : p ∈ d.properties) : family.Declares d.name p.name := by
  have hdescribes := Descriptor.describes_of_build hd
  obtain ⟨m, hm, hdescribed⟩ := exists_mem_of_forall₂ hdescribes.members hp
  rw [hdescribes.name_eq, hdescribed.name_eq]
  exact declares_of_member hm

theorem exists_member_of_mem (hd : family.describe config ref = .ok d) {p : Property}
    (hp : p ∈ d.properties) : ∃ m ∈ (family.type ref).members, m.name = p.name := by
  obtain ⟨m, hm, hdescribed⟩ :=
    exists_mem_of_forall₂ (Descriptor.describes_of_build hd).members hp
  exact ⟨m, hm, hdescribed.name_eq.symm⟩

/-! ## Writing -/

/-- Whether writing fails as conversions do, as a value of whatever property a type declares. -/
def Writer.Fails (family : Family) (config : Config) (w : Writer) : Prop :=
  ∀ (entity : String) (p : Property), family.Declares entity p.name →
    FailsOperationally family ((w.write entity p).eval (family.describe config))

theorem fails_null : Writer.null.Fails family config :=
  fun _ _ _ => .ok _

theorem failsWith_fault {α : Type} {entity : String} {p : Property}
    (hp : family.Declares entity p.name) (v : String) (reason : Mismatch) :
    FailsOperationally family (.error (fault entity p v reason) : Except Error α) :=
  .error (.conversion hp v reason)

theorem failsWith_writeLeaf {entity : String} {p : Property} (hp : family.Declares entity p.name)
    (v : Value) : FailsOperationally family (writeLeaf entity p v) := by
  unfold writeLeaf
  extract_lets converted
  have hconverted : FailsOperationally family converted := by
    simp only [converted]
    split
    · exact .ok _
    · split
      · exact .ok _
      · exact failsWith_fault hp _ _
  split
  · split
    · exact hconverted
    · exact failsWith_fault hp _ _
  · exact hconverted

theorem failsWith_writeAll {entity : String} {p : Property} (hp : family.Declares entity p.name)
    {ws : List Writer} (hws : ∀ w ∈ ws, w.Fails family config) :
    FailsOperationally family ((writeAll entity p ws).eval (family.describe config)) := by
  induction ws with
  | nil => exact .ok []
  | cons w ws ih =>
      obtain ⟨hw, hws⟩ := List.forall_mem_cons.mp hws
      rw [writeAll]
      simp only [Lookup.eval_bind, Lookup.eval_pure]
      exact (hw entity p hp).bind fun j => (ih hws).bind fun js => .ok _

/-- The properties of an object are written from a store whose writers fail as conversions do, before
and after a writer is taken. -/
theorem failsWith_writeProperties {σ : Type} {take : σ → Property → Writer × σ} {I : σ → Prop}
    (htake : ∀ store p, I store → (take store p).1.Fails family config ∧ I (take store p).2)
    {entity : String} {ps : List Property} (hps : ∀ p ∈ ps, family.Declares entity p.name)
    {store : σ} (hstore : I store) :
    FailsOperationally family
      ((writeProperties take entity store ps).eval (family.describe config)) := by
  induction ps generalizing store with
  | nil => exact .ok []
  | cons p ps ih =>
      obtain ⟨hp, hps⟩ := List.forall_mem_cons.mp hps
      obtain ⟨hw, htaken⟩ := htake store p hstore
      rw [writeProperties]
      split
      · dsimp only
        split
        · exact ih hps htaken
        · simp only [Lookup.eval_bind, Lookup.eval_pure]
          exact (hw entity p hp).bind fun j => (ih hps htaken).bind fun es => .ok _
      · exact ih hps hstore

theorem atPosition_fails {ws : List Writer} (hws : ∀ w ∈ ws, w.Fails family config)
    (p : Property) : (Writer.atPosition ws p).1.Fails family config := by
  rw [Writer.atPosition]
  cases hw : ws[p.position]? with
  | none => exact fails_null
  | some w => exact hws w (List.mem_of_getElem? hw)

theorem underName_fails {store : Entries Writer} (hstore : ∀ e ∈ store, e.2.Fails family config)
    (p : Property) : (Writer.underName store p).1.Fails family config ∧
      ∀ e ∈ (Writer.underName store p).2, e.2.Fails family config := by
  constructor
  · rw [Writer.underName]
    cases hw : Entries.get? p.name store with
    | none => exact fails_null
    | some w => exact hstore (p.name, w) (Entries.mem_of_get?_eq_some hw)
  · exact fun e he => hstore e ((Entries.erase_sublist p.name store).subset he)

mutual

/-- Whatever a datum is, and whatever property it is written for, writing fails as conversions do. -/
theorem fails_writer
    (hbuilds : ∀ type ∈ family.types, ∃ d, family.describe config type.ref = .ok d) :
    ∀ d : Datum, (writer family d).Fails family config
  | .absent => fails_null
  | .present d => fails_writer hbuilds d
  | .vec items => by
    intro entity p hp
    rw [writer]
    simp only [Lookup.eval_bind, Lookup.eval_pure]
    exact (failsWith_writeAll hp (fails_writers hbuilds items)).bind fun js => .ok _
  | .entity ref fields => by
    intro entity p hp
    obtain ⟨d, hd⟩ := Mapping.exists_describe hbuilds ref
    have hfields := fails_writers hbuilds fields
    have hnamed : ∀ e ∈ (family.type ref).named (writers family fields),
        e.2.Fails family config := by
      intro e he
      obtain ⟨⟨m, w⟩, hmem, rfl⟩ := List.mem_map.mp he
      exact hfields w (List.of_mem_zip hmem).2
    rw [eval_writer_entity, Lookup.eval_ask_ok hd, Lookup.eval_map]
    refine FailsWith.map ?_
    exact failsWith_writeProperties (I := fun store => ∀ e ∈ store, e.2.Fails family config)
      (fun _ p h => underName_fails h p) (fun _ hq => declares_of_mem hd hq) hnamed
  | .bool _ | .long _ | .integer _ | .double _ | .float _ | .string _ | .date _ | .dateTime _
  | .instant _ | .join _ | .token _ | .json _ => fun _ _ hp => failsWith_writeLeaf hp _

theorem fails_writers
    (hbuilds : ∀ type ∈ family.types, ∃ d, family.describe config type.ref = .ok d) :
    ∀ ds : List Datum, ∀ w ∈ writers family ds, w.Fails family config
  | [], _, hw => by cases hw
  | d :: ds, w, hw => by
    rcases List.mem_cons.mp hw with rfl | hw
    · exact fails_writer hbuilds d
    · exact fails_writers hbuilds ds w hw

end

theorem failsWith_writeObject
    (hbuilds : ∀ type ∈ family.types, ∃ d, family.describe config type.ref = .ok d)
    (hd : family.describe config ref = .ok d) (x : Instance) :
    FailsOperationally family ((writeObject family d x).eval (family.describe config)) := by
  rw [writeObject, Lookup.eval_bind]
  refine FailsWith.bind ?_ fun es => .ok _
  exact failsWith_writeProperties (I := fun ws => ∀ w ∈ ws, w.Fails family config)
    (fun _ p h => ⟨atPosition_fails h p, h⟩) (fun _ hp => declares_of_mem hd hp)
    (fails_writers hbuilds x)

/-! ## Reading -/

/-- Whether reading fails as conversions do, as a value of whatever property a type declares. -/
def Reader.Fails (family : Family) (config : Config) (r : Reader) : Prop :=
  ∀ (entity : String) (p : Property) (kind : Kind), family.Declares entity p.name →
    FailsOperationally family ((r entity p kind).eval (family.describe config))

theorem failsWith_readLeaf {entity : String} {p : Property} (hp : family.Declares entity p.name)
    (kind : Kind) (j : Json) : FailsOperationally family (readLeaf entity p kind j) := by
  unfold readLeaf
  extract_lets value
  cases value with
  | ok v => exact .ok v
  | error reason => exact failsWith_fault hp _ _

theorem failsWith_readSingle {read : Kind → Lookup Value}
    (hread : ∀ kind, FailsOperationally family ((read kind).eval (family.describe config)))
    (kind : Kind) :
    FailsOperationally family ((readSingle read kind).eval (family.describe config)) := by
  rw [eval_readSingle]
  exact (hread kind.element).map

theorem failsWith_readAll {entity : String} {p : Property} (hp : family.Declares entity p.name)
    (kind : Kind) {rs : List Reader} (hrs : ∀ r ∈ rs, Reader.Fails family config r) :
    FailsOperationally family ((readAll entity p kind rs).eval (family.describe config)) := by
  induction rs with
  | nil => exact .ok []
  | cons r rs ih =>
      obtain ⟨hr, hrs⟩ := List.forall_mem_cons.mp hrs
      rw [readAll]
      simp only [Lookup.eval_bind, Lookup.eval_pure]
      exact (hr entity p kind hp).bind fun v => (ih hrs).bind fun vs => .ok _

theorem failsWith_readProperties {entity : String} {ps : List Property}
    (hps : ∀ p ∈ ps, family.Declares entity p.name) {entries : List (String × Reader)}
    (hentries : ∀ e ∈ entries, Reader.Fails family config e.2) :
    FailsOperationally family
      ((readProperties entity entries ps).eval (family.describe config)) := by
  induction ps with
  | nil => exact .ok []
  | cons p ps ih =>
      obtain ⟨hp, hps⟩ := List.forall_mem_cons.mp hps
      rw [readProperties]
      split
      · split
        next r hr =>
          have hr := hentries (p.fieldName, r) (Entries.mem_of_get?_eq_some hr)
          simp only [Lookup.eval_bind, Lookup.eval_pure]
          exact (hr entity p p.kind hp).bind fun v => (ih hps).bind fun vs => .ok _
        next => exact ih hps
      · exact ih hps

theorem failsWith_instantiate (ref : EntityRef) (values : Entries Value) :
    FailsOperationally family ((family.type ref).instantiate values) :=
  EntityType.failsWith_instantiate (fun _ hm => declares_of_member hm) values

theorem failsWith_readEmbedded
    (hbuilds : ∀ type ∈ family.types, ∃ d, family.describe config type.ref = .ok d)
    (ref : EntityRef) {entries : List (String × Reader)}
    (hentries : ∀ e ∈ entries, Reader.Fails family config e.2) :
    FailsOperationally family ((readEmbedded family ref entries).eval (family.describe config)) := by
  obtain ⟨d, hd⟩ := Mapping.exists_describe hbuilds ref
  rw [readEmbedded, Lookup.eval_ask_ok hd, Lookup.eval_bind]
  refine (failsWith_readProperties (fun _ hp => declares_of_mem hd hp) hentries).bind fun vs => ?_
  rw [instantiateEmbedded, Lookup.eval_ask_ok hd]
  exact (failsWith_instantiate ref _).map

mutual

/-- Whatever a JSON value is, and whatever property and kind it is read for, reading fails as
conversions do. -/
theorem fails_reader
    (hbuilds : ∀ type ∈ family.types, ∃ d, family.describe config type.ref = .ok d) :
    ∀ j : Json, Reader.Fails family config (reader family j)
  | .null => fun _ _ _ _ => .ok _
  | .array js => by
    intro entity p kind hp
    rw [reader]
    dsimp only
    split
    · simp only [Lookup.eval_bind, Lookup.eval_pure]
      exact (failsWith_readAll hp _ (fails_readers hbuilds js)).bind fun vs => .ok _
    · exact failsWith_readLeaf hp _ _
  | .object es => by
    intro entity p kind hp
    rw [reader]
    refine failsWith_readSingle (fun kind => ?_) kind
    split
    · exact failsWith_readEmbedded hbuilds _ (fails_entryReaders hbuilds es)
    · exact failsWith_readLeaf hp _ _
  | .bool _ | .number _ | .string _ => fun _ _ kind hp =>
    failsWith_readSingle (fun _ => failsWith_readLeaf hp _ _) kind

theorem fails_readers
    (hbuilds : ∀ type ∈ family.types, ∃ d, family.describe config type.ref = .ok d) :
    ∀ js : List Json, ∀ r ∈ readers family js, Reader.Fails family config r
  | [], _, hr => by cases hr
  | j :: js, r, hr => by
    rcases List.mem_cons.mp hr with rfl | hr
    · exact fails_reader hbuilds j
    · exact fails_readers hbuilds js r hr

theorem fails_entryReaders
    (hbuilds : ∀ type ∈ family.types, ∃ d, family.describe config type.ref = .ok d) :
    ∀ es : List (String × Json), ∀ e ∈ entryReaders family es, Reader.Fails family config e.2
  | [], _, he => by cases he
  | (k, j) :: es, e, he => by
    rcases List.mem_cons.mp he with rfl | he
    · exact fails_reader hbuilds j
    · exact fails_entryReaders hbuilds es e he

end

/-! ## Metadata -/

theorem declares_of_withRole? (hd : family.describe config ref = .ok d) {role : Role}
    {p : Property} (hp : d.withRole? role = some p) : family.Declares d.name p.name :=
  declares_of_mem hd (Descriptor.mem_of_propertyAt? hp)

theorem failsWith_idValue {entity : String} {p : Property} (hp : family.Declares entity p.name)
    (id : String) : FailsOperationally family (idValue entity p id) := by
  rw [idValue]
  split
  · split
    · exact .ok _
    · exact failsWith_fault hp _ _
  · split
    · exact .ok _
    · exact failsWith_fault hp _ _
  · exact .ok _

theorem failsWith_withId (hd : family.describe config ref = .ok d) (doc : SearchDocument)
    (vs : Entries Value) : FailsOperationally family (withId d doc vs) := by
  rw [withId]
  split
  next hp _ => exact (failsWith_idValue (declares_of_withRole? hd hp) _).map
  next => exact .ok vs

theorem failsWith_objectId (hd : family.describe config ref = .ok d) (x : Instance) :
    FailsOperationally family (objectId d x) := by
  rw [objectId]
  split
  next p hp =>
    rw [idText.eq_def]
    split
    · exact .ok _
    · exact .ok _
    · exact .ok _
    · exact failsWith_fault (declares_of_withRole? hd hp) _ _
  next => exact .ok none

theorem failsWith_resolveIndex (hd : family.describe config ref = .ok d)
    (href : ∃ type ∈ family.types, type.ref = ref) (resolver : String → Option String) :
    FailsOperationally family (d.resolveIndex resolver) := by
  have hname : d.name = (family.type ref).name := (Descriptor.describes_of_build hd).name_eq
  rw [Descriptor.resolveIndex]
  split
  · rw [hname]
    exact .error (.missingIndexName (Family.type_mem href).1)
  · split
    · exact .ok _
    · exact .error (.unresolvedExpression _)

/-! ## Operations -/

/-- What the operations on objects of a type fail with, whatever the object, document, metadata and
resolver. Both checks of a type are made on the way: that of an embedded object, which fails for the
objects of other types only, and that of an entry of the context, which is always one of the type
that was asked for. -/
structure OperationalErrors (c : Context) (ref : EntityRef) : Prop where
  write : ∀ x, FailsOperationally c.family ((write c.family ref x).run c).1
  read : ∀ doc, FailsOperationally c.family ((read c.family ref doc).run c).1
  idOf : ∀ x, FailsOperationally c.family ((idOf ref x).run c).1
  indexRequest : ∀ x resolver,
    FailsOperationally c.family ((indexRequest c.family ref x resolver).run c).1
  populateId : ∀ x id, FailsOperationally c.family ((populateId c.family ref x id).run c).1
  populateVersion : ∀ x version,
    FailsOperationally c.family ((populateVersion c.family ref x version).run c).1
  populateToken : ∀ x seqNo primaryTerm,
    FailsOperationally c.family ((populateToken c.family ref x seqNo primaryTerm).run c).1
  embeddedValues : ∀ inner x, ((embeddedValues c.family inner inner x).run c).1 =
    .ok ((c.family.type inner).values x)
  embeddedMembers : ∀ {α : Type} (expected : EntityRef) (e : Embedded α),
    ((embeddedMembers c.family expected e).run c).1 =
      if e.type = expected then .ok ((c.family.type expected).named e.fields)
      else .error (.unexpectedType expected.typeName e.reference.typeName)
  lookup : ∀ inner, ∃ d, (c.entry inner).1 = .ok ⟨inner, d⟩ ∧ (c.lookup inner).1 = .ok d

/-- The members of an embedded object are looked up once its type is checked. -/
theorem eval_embeddedMembers {α : Type}
    (hbuilds : ∀ type ∈ family.types, ∃ d, family.describe config type.ref = .ok d)
    (expected : EntityRef) (e : Embedded α) :
    (embeddedMembers family expected e).eval (family.describe config) =
      if e.type = expected then .ok ((family.type expected).named e.fields)
      else .error (.unexpectedType expected.typeName e.reference.typeName) := by
  obtain ⟨d, hd⟩ := Mapping.exists_describe hbuilds expected
  rw [embeddedMembers, Embedded.downcast]
  by_cases htype : e.type = expected
  · rw [if_pos htype, if_pos htype]
    exact Lookup.eval_ask_ok hd _
  · rw [if_neg htype, if_neg htype]
    rfl

theorem operationalErrors (c : Context)
    (hbuilds : ∀ type ∈ c.family.types, ∃ d, c.describe type.ref = .ok d) {ref : EntityRef}
    (href : ∃ type ∈ c.family.types, type.ref = ref) : OperationalErrors c ref := by
  obtain ⟨d, hd⟩ : ∃ d, c.describe ref = .ok d := by
    obtain ⟨type, htype, rfl⟩ := href
    exact hbuilds type htype
  have hwithValue (x : Instance) {role : Role} {p : Property} (hp : d.withRole? role = some p)
      (v : Value) : FailsOperationally c.family ((c.family.type ref).withValue x p.name v) :=
    EntityType.failsWith_withValue (fun _ hm => declares_of_member hm) x
      (exists_member_of_mem hd (Descriptor.mem_of_propertyAt? hp)) v
  constructor
  case write =>
    intro x
    rw [Lookup.run_fst, Conversion.write, Lookup.eval_ask_ok hd]
    exact failsWith_writeObject hbuilds hd x
  case read =>
    intro doc
    rw [Lookup.run_fst, Conversion.read, Lookup.eval_ask_ok hd, Lookup.eval_bind]
    refine FailsWith.bind (failsWith_readProperties (fun _ hp => declares_of_mem hd hp)
      (fails_entryReaders hbuilds doc.source.entries)) fun vs => ?_
    have hid := failsWith_withId hd doc (Entries.merge vs)
    cases hvs : withId d doc (Entries.merge vs) with
    | ok vs => exact failsWith_instantiate ref _
    | error e => exact .error (hid e hvs)
  case idOf =>
    intro x
    rw [Lookup.run_fst, Conversion.idOf, Lookup.eval_ask_ok hd]
    exact failsWith_objectId hd x
  case indexRequest =>
    intro x resolver
    rw [Lookup.run_fst, Conversion.indexRequest, Lookup.eval_ask_ok hd]
    simp only [Lookup.eval_bind, Lookup.eval_done, Lookup.eval_pure]
    refine (failsWith_resolveIndex hd href resolver).bind fun index => ?_
    refine (failsWith_objectId hd x).bind fun id => ?_
    exact (failsWith_writeObject hbuilds hd x).bind fun source => .ok _
  case populateId =>
    intro x id
    rw [Lookup.run_fst, Conversion.populateId, Lookup.eval_ask_ok hd]
    split
    next => exact .ok x
    next p hp =>
      have hvalue := failsWith_idValue (declares_of_withRole? hd hp) id
      cases hv : idValue d.name p id with
      | ok v => exact hwithValue x hp v
      | error e => exact .error (hvalue e hv)
  case populateVersion =>
    intro x version
    rw [Lookup.run_fst, Conversion.populateVersion, Lookup.eval_ask_ok hd]
    split
    next => exact .ok x
    next p hp => exact hwithValue x hp _
  case populateToken =>
    intro x seqNo primaryTerm
    rw [Lookup.run_fst, Conversion.populateToken, Lookup.eval_ask_ok hd]
    split
    next p t hp _ => exact hwithValue x hp _
    next => exact .ok x
  case embeddedValues =>
    intro inner x
    rw [Lookup.run_fst, Conversion.embeddedValues]
    exact (eval_embeddedMembers hbuilds inner _).trans (if_pos rfl)
  case embeddedMembers =>
    intro α expected e
    rw [Lookup.run_fst]
    exact eval_embeddedMembers hbuilds expected e
  case lookup =>
    intro inner
    obtain ⟨e, he⟩ := Mapping.exists_describe hbuilds inner
    refine ⟨e, ?_, (c.lookup_fst inner).trans he⟩
    rw [Context.entry_fst, Family.entry, he]
    rfl

/-- The errors of the configuration are those of building descriptors, and no others. Once a family is
built, operations on its objects fail with a conversion, a missing argument, a property that cannot
be changed, a missing index name or an expression without a value, and name a declared property where
they name one. -/
theorem errors_of_phases :
    (∀ (config : Config) (definition : EntityDefinition) (e : Error),
      Descriptor.build config definition = .error e → e.isConfiguration = true) ∧
    ∀ c : Context, (∀ type ∈ c.family.types, ∃ d, c.describe type.ref = .ok d) →
      (∀ ref, (∃ type ∈ c.family.types, type.ref = ref) → OperationalErrors c ref) ∧
      ∀ e : Error, e.IsOperational c.family → e.isConfiguration = false ∧
        (∀ entity property, e ≠ .unknownProperty entity property) ∧
        ∀ expected found, e ≠ .unexpectedType expected found := by
  refine ⟨fun config definition e he => Descriptor.failsWith_build config definition e he,
    fun c hbuilds => ⟨fun ref href => operationalErrors c hbuilds href, fun e he => ?_⟩⟩
  refine ⟨he.isConfiguration_eq, ?_, ?_⟩
  · rintro entity property rfl
    cases he
  · rintro expected found rfl
    cases he

section Sample

open Library

theorem exists_describe_library (type : EntityType) (htype : type ∈ context.family.types) :
    ∃ d, context.describe type.ref = .ok d := by
  simp only [context, List.mem_cons, List.not_mem_nil, or_false] at htype
  rcases htype with rfl | rfl
  · exact ⟨_, describe_book⟩
  · exact ⟨_, describe_author⟩

/-- A book of an author whose name is a number. -/
def misnamedBook : SearchDocument where
  source := .ofEntries [("isbn", .string "3-16"), ("authors", .array [.object [("name", .int 7)]])]

theorem errors_of_phases_library : OperationalErrors context bookRef ∧ ∃ e,
    ((read context.family bookRef misnamedBook).run context).1 = .error e ∧
    e.IsOperational context.family ∧ e.isConfiguration = false := by
  obtain ⟨hoperations, herrors⟩ := errors_of_phases.2 context exists_describe_library
  have hbook := hoperations bookRef ⟨book, List.mem_cons_self, rfl⟩
  obtain ⟨e, he⟩ : ∃ e, ((read context.family bookRef misnamedBook).run context).1 = .error e :=
    ⟨_, rfl⟩
  have hoperational := hbook.read misnamedBook e he
  exact ⟨hbook, e, he, hoperational, (herrors e hoperational).1⟩

end Sample

end Conversion

end ObjectDocument
