import Mathlib.Data.List.Nodup
import ObjectDocument.Lookup
import ObjectDocument.Proofs.Descriptor.Declaration
import ObjectDocument.Proofs.Descriptor.Tables

/-!
# The structure of descriptors

A descriptor has one property for each declaration, at its position, with its name, kind and access.
Names are distinct, and so are the wire names of the properties that travel in bodies. Only the role
of one property can differ from the declared one, when it is made the identifier; this does not move
it out of the body. The tables of a descriptor are those of the properties that it ends up with.
-/

namespace ObjectDocument

namespace Property

/-- What the descriptor of a property takes over from its declaration. -/
structure Declares (d : PropertyDefinition) (p : Property) : Prop where
  name_eq : p.name = d.name
  kind_eq : p.kind = d.kind
  access_eq : p.access = d.access
  isOutOfBand_eq : p.role.isOutOfBand = (roleOf d).isOutOfBand

/-- A property that is built stands at its position and declares what it was built from. -/
theorem build_eq_ok {config : Config} {entity : String} {position : Nat} {d : PropertyDefinition}
    {p : Property} (h : build config entity position d = .ok p) :
    p.position = position ∧ Declares d p := by
  obtain ⟨-, -, -, converter, -, rfl⟩ := build_eq_ok_iff.mp h
  exact ⟨rfl, rfl, rfl, rfl, rfl⟩

end Property

namespace Descriptor

/-! ## Properties in order of declaration -/

section Properties

variable {config : Config} {entity : String} {position : Nat} {ds : List PropertyDefinition}
  {ps : List Property}

theorem forall₂_build (h : buildProperties config entity position ds = .ok ps) :
    List.Forall₂ (fun d p => ∃ i, Property.build config entity i d = .ok p) ds ps := by
  induction ds generalizing position ps with
  | nil =>
      cases h
      exact .nil
  | cons d ds ih =>
      rw [buildProperties] at h
      obtain ⟨p, hp, h⟩ := bind_eq_ok.mp h
      obtain ⟨rest, hrest, h⟩ := bind_eq_ok.mp h
      cases h
      exact .cons ⟨position, hp⟩ (ih hrest)

theorem map_position (h : buildProperties config entity position ds = .ok ps) :
    ps.map (·.position) = List.range' position ps.length := by
  induction ds generalizing position ps with
  | nil =>
      cases h
      rfl
  | cons d ds ih =>
      rw [buildProperties] at h
      obtain ⟨p, hp, h⟩ := bind_eq_ok.mp h
      obtain ⟨rest, hrest, h⟩ := bind_eq_ok.mp h
      cases h
      rw [List.map_cons, (Property.build_eq_ok hp).1, ih hrest]
      rfl

end Properties

/-! ## The identifier -/

/-- Making a property the identifier keeps it in the body. -/
theorem declares_promote {d : PropertyDefinition} {p : Property} (h : Property.Declares d p)
    (hp : p.isImplicitId = true) : Property.Declares d { p with role := .id } := by
  -- Only a property without a role becomes the identifier, so none is moved into the body.
  have hrole : p.role = .plain := by
    simp only [Property.isImplicitId, Bool.and_eq_true, decide_eq_true_eq] at hp
    exact hp.1.1.1
  refine ⟨h.name_eq, h.kind_eq, h.access_eq, ?_⟩
  rw [← h.isOutOfBand_eq, hrole]
  rfl

section Promote

variable {R S : PropertyDefinition → Property → Prop} {ds : List PropertyDefinition}
  {ps : List Property}

theorem forall₂_promoteFirst (hkeep : ∀ d p, R d p → S d p)
    (hpromote : ∀ d p, R d p → p.isImplicitId = true → S d { p with role := .id })
    (h : List.Forall₂ R ds ps) : List.Forall₂ S ds (promoteFirst ps) := by
  induction h with
  | nil => exact .nil
  | cons hd hds ih =>
      rw [promoteFirst]
      split
      next hp => exact .cons (hpromote _ _ hd hp) (hds.imp hkeep)
      next => exact .cons (hkeep _ _ hd) ih

/-- What holds of each declared property holds of each property, whether it becomes the identifier or
not. -/
theorem forall₂_promoteId (hkeep : ∀ d p, R d p → S d p)
    (hpromote : ∀ d p, R d p → p.isImplicitId = true → S d { p with role := .id })
    (h : List.Forall₂ R ds ps) : List.Forall₂ S ds (promoteId ps) := by
  rw [promoteId]
  split
  · exact h.imp hkeep
  · exact forall₂_promoteFirst hkeep hpromote h

end Promote

theorem map_promoteFirst {α : Type} (f : Property → α) (hf : ∀ p, f { p with role := .id } = f p)
    (ps : List Property) : (promoteFirst ps).map f = ps.map f := by
  induction ps with
  | nil => rfl
  | cons p ps ih =>
      rw [promoteFirst]
      split
      · rw [List.map_cons, List.map_cons, hf]
      · rw [List.map_cons, List.map_cons, ih]

/-- The identifier differs from the declared property in its role only. -/
theorem map_promoteId {α : Type} (f : Property → α) (hf : ∀ p, f { p with role := .id } = f p)
    (ps : List Property) : (promoteId ps).map f = ps.map f := by
  rw [promoteId]
  split
  · rfl
  · exact map_promoteFirst f hf ps

/-! ## Descriptors -/

/-- What a descriptor shares with the definition it was built from. -/
structure Describes (definition : EntityDefinition) (d : Descriptor) : Prop where
  name_eq : d.name = definition.name
  declares : List.Forall₂ Property.Declares definition.properties d.properties
  position_eq : ∀ (i : Nat) (p : Property), d.properties[i]? = some p → p.position = i
  nodup_names : (d.properties.map (·.name)).Nodup
  one_role : ∀ role ≠ .plain, (d.properties.filter fun p => p.role = role).length ≤ 1
  nodup_fieldNames :
    ((d.properties.filter fun p => p.isReadable || p.isWritable).map (·.fieldName)).Nodup
  /-- The tables are those of the properties. -/
  tables_eq : d = ofProperties d.name d.properties d.document

/-- The steps of a build. The table of names, which is made of the declared properties, is right for
those of the descriptor too, and the others are made of these. -/
theorem build_eq_ok_iff {config : Config} {definition : EntityDefinition} {d : Descriptor} :
    build config definition = .ok d ↔ ∃ declared document,
      buildProperties config definition.name 0 definition.properties = .ok declared ∧
      (declared.map (·.name)).Nodup ∧
      (∀ role ≠ .plain, ((promoteId declared).filter fun p => p.role = role).length ≤ 1) ∧
      (((promoteId declared).filter fun p => p.isReadable || p.isWritable).map
        (·.fieldName)).Nodup ∧
      buildDocument? definition.document = .ok document ∧
      failOnError definition.name
        (validate (ofProperties definition.name (promoteId declared) document) config.strict) =
          .ok () ∧
      d = ofProperties definition.name (promoteId declared) document := by
  have hnames (ps : List Property) : (promoteId ps).map (·.name) = ps.map (·.name) :=
    map_promoteId (·.name) (fun _ => rfl) ps
  rw [build]
  simp only [bind_eq_ok, indexNames_eq_ok_iff, uniqueRole_eq_ok_iff, indexFieldNames_eq_ok_iff]
  constructor
  · rintro ⟨declared, hdeclared, _, ⟨hnodup, rfl⟩, _, ⟨hid, rfl⟩, _, ⟨hversion, rfl⟩, _,
      ⟨htoken, rfl⟩, _, ⟨hjoin, rfl⟩, _, ⟨hfields, rfl⟩, document, hdocument, _, hfail, h⟩
    rw [← hnames] at hfail h
    refine ⟨declared, document, hdeclared, hnodup, ?_, hfields, hdocument, hfail,
      (Except.ok.inj h).symm⟩
    intro role hrole
    cases role with
    | plain => exact absurd rfl hrole
    | id => exact hid
    | version => exact hversion
    | sequenceToken => exact htoken
    | join => exact hjoin
  · rintro ⟨declared, document, hdeclared, hnodup, hroles, hfields, hdocument, hfail, rfl⟩
    rw [ofProperties, hnames] at hfail
    rw [ofProperties, hnames]
    exact ⟨declared, hdeclared, _, ⟨hnodup, rfl⟩, _, ⟨hroles .id (by simp), rfl⟩, _,
      ⟨hroles .version (by simp), rfl⟩, _, ⟨hroles .sequenceToken (by simp), rfl⟩, _,
      ⟨hroles .join (by simp), rfl⟩, _, ⟨hfields, rfl⟩, document, hdocument, (), hfail, rfl⟩

/-- A descriptor that is built describes its definition. -/
theorem describes_of_build {config : Config} {definition : EntityDefinition} {d : Descriptor}
    (h : build config definition = .ok d) : Describes definition d := by
  obtain ⟨declared, document, hdeclared, hnames, hroles, hfields, -, -, rfl⟩ :=
    build_eq_ok_iff.mp h
  have hpositions := map_position hdeclared
  have hall : List.Forall₂ Property.Declares definition.properties declared :=
    (forall₂_build hdeclared).imp fun e p ⟨_, hp⟩ => (Property.build_eq_ok hp).2
  -- The names are checked on the declared properties, before one becomes the identifier.
  have hnames' := map_promoteId (·.name) (fun _ => rfl) declared
  have hpositions' := map_promoteId (·.position) (fun _ => rfl) declared
  refine ⟨rfl, forall₂_promoteId (fun _ _ => id) (fun _ _ => declares_promote) hall, ?_,
    hnames'.symm ▸ hnames, hroles, hfields, rfl⟩
  intro i p hp
  have hi : (declared.map (·.position))[i]? = some p.position := by
    rw [← hpositions', List.getElem?_map]
    exact congrArg _ hp
  rw [hpositions] at hi
  obtain ⟨_, heq⟩ := List.getElem?_eq_some_iff.mp hi
  simpa using heq.symm

end Descriptor

/-! ## Members and their properties -/

/-- Whether a member is a version or a sequence token, which travel beside the body. -/
def Member.isOutOfBand (m : Member) : Bool :=
  match m.role, m.shape.kind.element with
  | some .version, _ => true
  | none, .sequenceToken => true
  | _, _ => false

/-- What the property of a member takes over from it. -/
structure Member.DescribedBy (type : EntityType) (m : Member) (p : Property) : Prop where
  name_eq : p.name = m.name
  kind_eq : p.kind = m.shape.kind
  access_eq : p.access = type.accessOf m
  isOutOfBand_eq : p.role.isOutOfBand = m.isOutOfBand

namespace EntityType

variable {type : EntityType} {i : Nat} {m : Member}

theorem keys_named {α : Type} {items : List α} (hlength : items.length = type.members.length) :
    Entries.keys (type.named items) = type.members.map (·.name) := by
  have hfst := List.map_fst_zip (hlength ▸ Nat.le_refl _ : type.members.length ≤ items.length)
  rw [named, Entries.keys, List.map_map]
  exact (List.map_map (g := Member.name)).symm.trans (congrArg (List.map Member.name) hfst)

/-- What there is for a member is found under its name. -/
theorem get?_named {α : Type} {items : List α} {a : α} (hnodup : (type.members.map (·.name)).Nodup)
    (hlength : items.length = type.members.length) (hm : type.members[i]? = some m)
    (ha : items[i]? = some a) : Entries.get? m.name (type.named items) = some a := by
  rw [Entries.get?_eq_some_iff (keys_named hlength ▸ hnodup)]
  refine List.mem_map.mpr ⟨(m, a), ?_, rfl⟩
  exact List.mem_of_getElem? (by rw [List.getElem?_zip_eq_some]; exact ⟨hm, ha⟩)

theorem keys_values {x : Instance} (hlength : x.length = type.members.length) :
    Entries.keys (type.values x) = type.members.map (·.name) :=
  keys_named (by rw [List.length_map, hlength])

/-- The value of a member is found under its name. -/
theorem get?_values {x : Instance} {d : Datum} (hnodup : (type.members.map (·.name)).Nodup)
    (hlength : x.length = type.members.length) (hm : type.members[i]? = some m)
    (hd : x[i]? = some d) : Entries.get? m.name (type.values x) = some d.toValue :=
  get?_named hnodup (by rw [List.length_map, hlength]) hm (by rw [List.getElem?_map, hd]; rfl)

end EntityType

namespace Descriptor.Describes

variable {type : EntityType} {definition : EntityDefinition} {d : Descriptor}

theorem members (h : d.Describes type.definition) :
    List.Forall₂ (Member.DescribedBy type) type.members d.properties := by
  refine (List.forall₂_map_left_iff.mp h.declares).imp fun m p hp => ?_
  refine ⟨hp.name_eq, hp.kind_eq, hp.access_eq, ?_⟩
  rw [hp.isOutOfBand_eq, Property.roleOf, Member.isOutOfBand]
  rcases m.role with _ | _ | _
  · cases m.shape.kind.element <;> rfl
  · rfl
  · rfl

theorem map_name (h : d.Describes type.definition) :
    d.properties.map (·.name) = type.members.map (·.name) := by
  refine (map_eq_map_of_forall₂ ?_).symm
  exact h.members.imp fun m p hp => hp.name_eq.symm

theorem nodup_members (h : d.Describes type.definition) :
    (type.members.map (·.name)).Nodup :=
  h.map_name ▸ h.nodup_names

theorem pairwise_position (h : d.Describes definition) :
    d.properties.Pairwise fun p q => p.position < q.position := by
  rw [List.pairwise_iff_getElem]
  intro i j hi hj hij
  rw [h.position_eq i _ (List.getElem?_eq_getElem hi),
    h.position_eq j _ (List.getElem?_eq_getElem hj)]
  exact hij

theorem eq_of_name_eq (h : d.Describes definition) {p q : Property} (hp : p ∈ d.properties)
    (hq : q ∈ d.properties) (hname : p.name = q.name) : p = q :=
  List.inj_on_of_nodup_map h.nodup_names hp hq hname

/-- Properties that travel in bodies are told apart by their wire names. -/
theorem eq_of_fieldName_eq (h : d.Describes definition) {p q : Property}
    (hp : p ∈ d.properties) (hptravels : (p.isReadable || p.isWritable) = true)
    (hq : q ∈ d.properties) (hqtravels : (q.isReadable || q.isWritable) = true)
    (hname : p.fieldName = q.fieldName) : p = q :=
  List.inj_on_of_nodup_map h.nodup_fieldNames (List.mem_filter.mpr ⟨hp, hptravels⟩)
    (List.mem_filter.mpr ⟨hq, hqtravels⟩) hname

/-- The member at the position of a property has its name. -/
theorem getElem?_position (h : d.Describes type.definition) {p : Property}
    (hp : p ∈ d.properties) : ∃ m, type.members[p.position]? = some m ∧ m.name = p.name := by
  obtain ⟨i, hi⟩ := List.getElem?_of_mem hp
  have hname : (type.members.map (·.name))[i]? = some p.name := by
    rw [← h.map_name, List.getElem?_map, hi]
    rfl
  rw [List.getElem?_map] at hname
  rw [h.position_eq i p hi]
  exact Option.map_eq_some_iff.mp hname

/-- The member with the name of a property is the one at its position. -/
theorem getElem?_of_name_eq (h : d.Describes type.definition) {p : Property}
    (hp : p ∈ d.properties) {m : Member} (hm : m ∈ type.members) (hname : m.name = p.name) :
    type.members[p.position]? = some m := by
  obtain ⟨n, hn, hnname⟩ := h.getElem?_position hp
  rw [hn, List.inj_on_of_nodup_map h.nodup_members hm (List.mem_of_getElem? hn)
    (hname.trans hnname.symm)]

/-! ## Look-ups -/

/-- The table of names has the position of each property, and nothing else. -/
theorem get?_byName_eq_some_iff (h : d.Describes definition) {name : String} {i : Nat} :
    Entries.get? name d.byName = some i ↔ ∃ p, d.properties[i]? = some p ∧ p.name = name := by
  have htable : Entries.get? name d.byName = d.properties.findIdx? fun p => p.name = name := by
    rw [h.tables_eq]
    exact get?_byName_ofProperties name
  rw [htable, findIdx?_eq_some_iff_getElem? (length_filter_le_of_nodup h.nodup_names name)]
  simp only [decide_eq_true_eq]

/-- The table of wire names has the position of each property that travels, and nothing else. -/
theorem get?_byFieldName_eq_some_iff (h : d.Describes definition) {fieldName : String} {i : Nat} :
    Entries.get? fieldName d.byFieldName = some i ↔ ∃ p, d.properties[i]? = some p ∧
      (p.isReadable = true ∨ p.isWritable = true) ∧ p.fieldName = fieldName := by
  have htable : Entries.get? fieldName d.byFieldName =
      d.properties.findIdx? fun p => (p.isReadable || p.isWritable) && p.fieldName = fieldName := by
    rw [h.tables_eq]
    exact get?_byFieldName_ofProperties fieldName
  have hone := length_filter_le_of_nodup h.nodup_fieldNames fieldName
  rw [List.filter_filter] at hone
  have hcomm : (fun p : Property => decide (p.fieldName = fieldName) &&
      (p.isReadable || p.isWritable)) = fun p => (p.isReadable || p.isWritable) &&
        decide (p.fieldName = fieldName) := funext fun p => Bool.and_comm _ _
  rw [hcomm] at hone
  rw [htable, findIdx?_eq_some_iff_getElem? hone]
  simp only [Bool.and_eq_true, Bool.or_eq_true, decide_eq_true_eq]

theorem roleAt_eq_findIdx? (h : d.Describes definition) {role : Role} (hrole : role ≠ .plain) :
    d.roleAt role = d.properties.findIdx? fun p => p.role = role := by
  rw [h.tables_eq]
  exact roleAt_ofProperties hrole

/-- A role that only one property can have is at the position of the property that has it. -/
theorem roleAt_eq_some_iff (h : d.Describes definition) {role : Role} (hrole : role ≠ .plain)
    {i : Nat} : d.roleAt role = some i ↔ ∃ p, d.properties[i]? = some p ∧ p.role = role := by
  rw [h.roleAt_eq_findIdx? hrole, findIdx?_eq_some_iff_getElem? (h.one_role role hrole)]
  simp only [decide_eq_true_eq]

theorem property?_eq_some_iff (h : d.Describes definition) {name : String} {p : Property} :
    d.property? name = some p ↔ p ∈ d.properties ∧ p.name = name :=
  propertyAt?_eq_some_iff fun _ => h.get?_byName_eq_some_iff

/-- A property is found under its wire name if documents hold it. -/
theorem propertyOfField?_eq_some_iff (h : d.Describes definition) {fieldName : String}
    {p : Property} : d.propertyOfField? fieldName = some p ↔
      p ∈ d.properties ∧ (p.isReadable = true ∨ p.isWritable = true) ∧ p.fieldName = fieldName :=
  propertyAt?_eq_some_iff fun _ => h.get?_byFieldName_eq_some_iff

/-- A property with a role that only one can have is found by its role. -/
theorem withRole?_eq_some_iff (h : d.Describes definition) {role : Role} (hrole : role ≠ .plain)
    {p : Property} : d.withRole? role = some p ↔ p ∈ d.properties ∧ p.role = role :=
  propertyAt?_eq_some_iff fun _ => h.roleAt_eq_some_iff hrole

/-- The place where a property is found by its role is its position. -/
theorem map_position_withRole? (h : d.Describes definition) {role : Role} (hrole : role ≠ .plain) :
    (d.withRole? role).map (·.position) = d.roleAt role := by
  rw [withRole?, propertyAt?]
  cases hi : d.roleAt role with
  | none => rfl
  | some i =>
      obtain ⟨p, hp, -⟩ := (h.roleAt_eq_some_iff hrole).mp hi
      rw [Option.bind_some, hp, Option.map_some, h.position_eq i p hp]

end Descriptor.Describes

/-! ## A library

Books refer to their authors and to other books. The family is small enough to be looked through, and
has both kinds of types, embedding in lists and options, a converter and a version.
-/

namespace Library

/-- The reference of authors. -/
def authorRef : EntityRef := ⟨1, "Author"⟩

/-- The reference of books. -/
def bookRef : EntityRef := ⟨0, "Book"⟩

/-- Authors are immutable. -/
def author : EntityType where
  ref := authorRef
  name := "Author"
  immutable := true
  members := [
    { name := "name", shape := .base .string, initial := .string "" },
    { name := "born", shape := .option (.base .date), initial := .absent }]

/-- Books are mutable. Their number is stored in capitals. -/
def book : EntityType where
  ref := bookRef
  name := "Book"
  members := [
    { name := "isbn", shape := .base .string, initial := .string ""
      field := .single { converter := some .capitals } },
    { name := "authors", shape := .vec (.option (.base (.entity authorRef))), initial := .vec [] },
    { name := "sequel", shape := .option (.base (.entity bookRef)), initial := .absent },
    { name := "version", shape := .option (.base .long), initial := .absent
      role := some .version }]

/-- Books and authors under the default configuration. -/
def context : Context where
  config := {}
  family := ⟨[book, author]⟩

/-- A property without a declared field. -/
def property (position : Nat) (name : String) (kind : Kind) (fieldType : FieldType) : Property where
  position := position
  name := name
  fieldName := name
  kind := kind
  fieldType := fieldType
  spec := .inferred
  relations := []
  role := .plain
  access := .readWrite
  converter := none

/-- The number of a book. -/
def isbn : Property :=
  { property 0 "isbn" .string .keyword with
    spec := .single { converter := some .capitals }
    converter := some (.explicit .capitals) }

/-- The version of a book. -/
def version : Property :=
  { property 3 "version" .long .long with role := .version }

/-- The properties of a book. -/
def bookProperties : List Property :=
  [isbn, property 1 "authors" (.list (.entity authorRef)) .object,
    property 2 "sequel" (.entity bookRef) .object, version]

/-- The properties of an author. -/
def authorProperties : List Property :=
  [property 0 "name" .string .keyword, property 1 "born" .localDate .date]

/-- A book with an author, an unknown author, and a sequel. -/
def sampleBook : Instance :=
  [.string "3-16-148410-x",
    .vec [.present (.entity authorRef [.string "Ann", .present (.date .epoch)]), .absent],
    .present (.entity bookRef [.string "0-201", .vec [], .absent, .present (.long 2)]),
    .present (.long 7)]

theorem type_book : context.family.type bookRef = book :=
  rfl

theorem type_author : context.family.type authorRef = author :=
  rfl

theorem describe_book :
    context.describe bookRef = .ok (.ofProperties "Book" bookProperties none) :=
  rfl

theorem describe_author :
    context.describe authorRef = .ok (.ofProperties "Author" authorProperties none) :=
  rfl

end Library

end ObjectDocument
