import ObjectDocument.Proofs.Descriptor.Roles

/-!
# Descriptors that are built

Reading, writing and mapping look properties up by name, by wire name and by role, in tables that a
build makes between its passes over the properties. In every descriptor that is built the tables have
the positions of the properties that it ends up with, and each look-up has one property to find at
most, so it finds that one. The properties stand at their positions, those with a role have the kind
that goes with it, and those beside the document are no part of it.
-/

namespace ObjectDocument

theorem Kind.element_eq_self {kind : Kind} (h : kind.isCollection = false) :
    kind.element = kind := by
  cases kind with
  | list element => cases h
  | _ => rfl

namespace Descriptor

open Property

/-- What holds of every descriptor that is built of a definition. -/
structure WellFormed (definition : EntityDefinition) (d : Descriptor) : Prop where
  length_eq : d.properties.length = definition.properties.length
  position_eq : ∀ (i : Nat) (p : Property), d.properties[i]? = some p → p.position = i
  name_eq : ∀ (i : Nat) (p : Property), d.properties[i]? = some p →
    (definition.properties[i]?).map (·.name) = some p.name
  byName_eq_some_iff : ∀ (name : String) (i : Nat),
    Entries.get? name d.byName = some i ↔ ∃ p, d.properties[i]? = some p ∧ p.name = name
  byFieldName_eq_some_iff : ∀ (fieldName : String) (i : Nat),
    Entries.get? fieldName d.byFieldName = some i ↔ ∃ p, d.properties[i]? = some p ∧
      (p.isReadable = true ∨ p.isWritable = true) ∧ p.fieldName = fieldName
  roleAt_eq_some_iff : ∀ role ≠ .plain, ∀ i : Nat,
    d.roleAt role = some i ↔ ∃ p, d.properties[i]? = some p ∧ p.role = role
  property?_eq_some_iff : ∀ (name : String) (p : Property),
    d.property? name = some p ↔ p ∈ d.properties ∧ p.name = name
  propertyOfField?_eq_some_iff : ∀ (fieldName : String) (p : Property),
    d.propertyOfField? fieldName = some p ↔
      p ∈ d.properties ∧ (p.isReadable = true ∨ p.isWritable = true) ∧ p.fieldName = fieldName
  id?_eq_some_iff : ∀ p : Property, d.id? = some p ↔ p ∈ d.properties ∧ p.role = .id
  version?_eq_some_iff : ∀ p : Property, d.version? = some p ↔ p ∈ d.properties ∧ p.role = .version
  token?_eq_some_iff : ∀ p : Property,
    d.token? = some p ↔ p ∈ d.properties ∧ p.role = .sequenceToken
  join?_eq_some_iff : ∀ p : Property, d.join? = some p ↔ p ∈ d.properties ∧ p.role = .join
  /-- The identifier is the property that is declared as one, and else the first that may be one
  without a declaration. -/
  id?_position : d.id?.map (·.position) =
    (definition.properties.findIdx? fun e => e.role = some .id).or
      (definition.properties.findIdx? (·.mayIdentify))
  id_kind : ∀ p ∈ d.properties, p.role = .id →
    p.kind = .string ∨ p.kind = .long ∨ p.kind = .integer
  version_kind : ∀ p ∈ d.properties, p.role = .version → p.kind = .long ∨ p.kind = .integer
  token_kind : ∀ p ∈ d.properties, p.role = .sequenceToken → p.kind = .sequenceToken
  join_kind : ∀ p ∈ d.properties, p.role = .join → p.kind = .join ∧ p.relations ≠ []
  outOfBand : ∀ p ∈ d.properties, p.role = .version ∨ p.role = .sequenceToken →
    p.isReadable = false ∧ p.isWritable = false ∧ p.isMapped = false
  isMapped_iff : ∀ p ∈ d.properties,
    p.isMapped = true ↔ p.isReadable = true ∨ p.isWritable = true

/-! ## The identifier -/

variable {config : Config} {ds : List PropertyDefinition} {ps : List Property}

/-- Among the properties of a definition, the identifier is chosen by the declarations. -/
theorem findIdx?_id
    (h : List.Forall₂ (fun d p => Realizes config d p ∧ p.role = roleOf d ∧ d.Valid) ds ps) :
    (promoteId ps).findIdx? (fun p => p.role = .id) =
      (ds.findIdx? fun d => d.role = some .id).or (ds.findIdx? (·.mayIdentify)) := by
  rw [findIdx?_promoteId]
  congr 1
  · refine (findIdx?_eq_of_map_eq (map_eq_map_of_forall₂ (h.imp fun d p hp => ?_))).symm
    rw [hp.2.1, decide_eq_decide]
    exact roleOf_eq_id_iff.symm
  · refine (findIdx?_eq_of_map_eq (map_eq_map_of_forall₂ (h.imp fun d p hp => ?_))).symm
    exact (hp.1.isImplicitId_eq hp.2.1).symm

end Descriptor

/-! ## Roles and kinds -/

namespace Property.Represents

variable {config : Config} {d : PropertyDefinition} {p : Property}

theorem id_kind (h : Represents config d p) (hp : p.role = .id) :
    p.kind = .string ∨ p.kind = .long ∨ p.kind = .integer := by
  rw [h.declares.kind_eq]
  rcases h.role_eq with hrole | ⟨-, hmay⟩
  · exact h.valid.id_kind (roleOf_eq_id_iff.mp (hrole.symm.trans hp))
  · simp only [PropertyDefinition.mayIdentify, Bool.and_eq_true] at hmay
    exact isIdentifier_iff.mp hmay.1.2

theorem version_kind (h : Represents config d p) (hp : p.role = .version) :
    p.kind = .long ∨ p.kind = .integer := by
  rw [h.declares.kind_eq]
  exact h.valid.version_kind (roleOf_eq_version_iff.mp (h.roleOf_eq hp (by simp)))

theorem token_kind (h : Represents config d p) (hp : p.role = .sequenceToken) :
    p.kind = .sequenceToken := by
  rw [h.declares.kind_eq]
  obtain ⟨hnone, helement⟩ :=
    roleOf_eq_sequenceToken_iff.mp (h.roleOf_eq hp (by simp))
  rw [← Kind.element_eq_self (h.valid.scalar hnone (.inl helement)), helement]

theorem join_kind (h : Represents config d p) (hp : p.role = .join) :
    p.kind = .join ∧ p.relations ≠ [] := by
  rw [h.declares.kind_eq, h.relations_eq]
  obtain ⟨hnone, helement⟩ := roleOf_eq_join_iff.mp (h.roleOf_eq hp (by simp))
  refine ⟨?_, h.valid.relations_ne_nil hnone helement⟩
  rw [← Kind.element_eq_self (h.valid.scalar hnone (.inr helement)), helement]

end Property.Represents

namespace Descriptor

open Property

variable {config : Config} {definition : EntityDefinition} {d : Descriptor}

/-- Every property of a descriptor that is built has a declaration. -/
theorem represents_of_mem (h : build config definition = .ok d) {p : Property}
    (hp : p ∈ d.properties) : ∃ e ∈ definition.properties, Represents config e p := by
  obtain ⟨declared, document, hdeclared, -, -, -, -, -, rfl⟩ := build_eq_ok_iff.mp h
  exact exists_mem_of_forall₂ (forall₂_represents (forall₂_realizes hdeclared)) hp

/-- Every property of a descriptor that is built has the converter of its declaration. -/
theorem converterFor_of_mem (h : build config definition = .ok d) {p : Property}
    (hp : p ∈ d.properties) : ∃ e ∈ definition.properties, Represents config e p ∧
      converterFor definition.name e = .ok p.converter := by
  obtain ⟨declared, document, hdeclared, -, -, -, -, -, rfl⟩ := build_eq_ok_iff.mp h
  exact exists_mem_of_forall₂ (forall₂_converterFor hdeclared) hp

/-- Every descriptor that is built is well-formed, with its tables. -/
theorem wellFormed_of_build (h : build config definition = .ok d) : WellFormed definition d := by
  have hdescribes := describes_of_build h
  have hrepresents {p : Property} (hp : p ∈ d.properties) := represents_of_mem h hp
  constructor
  case length_eq => exact hdescribes.declares.length_eq.symm
  case position_eq => exact hdescribes.position_eq
  case name_eq =>
    intro i p hp
    have hnames : definition.properties.map (·.name) = d.properties.map (·.name) :=
      map_eq_map_of_forall₂ (hdescribes.declares.imp fun e p hp => hp.name_eq.symm)
    rw [← List.getElem?_map, hnames, List.getElem?_map, hp]
    rfl
  case byName_eq_some_iff => exact fun _ _ => hdescribes.get?_byName_eq_some_iff
  case byFieldName_eq_some_iff => exact fun _ _ => hdescribes.get?_byFieldName_eq_some_iff
  case roleAt_eq_some_iff => exact fun _ hrole _ => hdescribes.roleAt_eq_some_iff hrole
  case property?_eq_some_iff => exact fun _ _ => hdescribes.property?_eq_some_iff
  case propertyOfField?_eq_some_iff => exact fun _ _ => hdescribes.propertyOfField?_eq_some_iff
  case id?_eq_some_iff => exact fun _ => hdescribes.withRole?_eq_some_iff (by simp)
  case version?_eq_some_iff => exact fun _ => hdescribes.withRole?_eq_some_iff (by simp)
  case token?_eq_some_iff => exact fun _ => hdescribes.withRole?_eq_some_iff (by simp)
  case join?_eq_some_iff => exact fun _ => hdescribes.withRole?_eq_some_iff (by simp)
  case id?_position =>
    rw [id?, hdescribes.map_position_withRole? (by simp), hdescribes.roleAt_eq_findIdx? (by simp)]
    obtain ⟨declared, document, hdeclared, -, -, -, -, -, rfl⟩ := build_eq_ok_iff.mp h
    exact findIdx?_id (forall₂_realizes hdeclared)
  case id_kind =>
    intro p hp hrole
    obtain ⟨e, -, he⟩ := hrepresents hp
    exact he.id_kind hrole
  case version_kind =>
    intro p hp hrole
    obtain ⟨e, -, he⟩ := hrepresents hp
    exact he.version_kind hrole
  case token_kind =>
    intro p hp hrole
    obtain ⟨e, -, he⟩ := hrepresents hp
    exact he.token_kind hrole
  case join_kind =>
    intro p hp hrole
    obtain ⟨e, -, he⟩ := hrepresents hp
    exact he.join_kind hrole
  case outOfBand =>
    rintro p - hrole
    have hout : p.role.isOutOfBand = true := by
      rcases hrole with hrole | hrole
      · rw [hrole]
        rfl
      · rw [hrole]
        rfl
    simp [isReadable, isWritable, isMapped, hout]
  case isMapped_iff =>
    intro p _
    rw [Property.isMapped_eq, Bool.or_eq_true]

/-! ## A report -/

/-- Reports have a place among the comments on them. The first property that may identify one does,
though another may identify it too. -/
def report : EntityDefinition where
  name := "Report"
  properties := [
    { name := "title", kind := .string },
    { name := "documentId", kind := .string },
    { name := "id", kind := .long },
    { name := "revision", kind := .long, role := some .version },
    { name := "token", kind := .sequenceToken },
    { name := "place", kind := .join, relations := [⟨"report", ["comment"]⟩] }]

theorem wellFormed_report : ∃ d, build {} report = .ok d ∧ WellFormed report d ∧
    d.id?.map (·.name) = some "documentId" := by
  obtain ⟨d, hd⟩ : ∃ d, build {} report = .ok d := ⟨_, rfl⟩
  exact ⟨d, hd, wellFormed_of_build hd, by cases hd; rfl⟩

end Descriptor

end ObjectDocument
