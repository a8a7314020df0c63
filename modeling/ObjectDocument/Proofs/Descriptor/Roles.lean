import Mathlib.Data.List.Basic
import ObjectDocument.Proofs.Descriptor.Structure

/-!
# Roles of built properties

Every property has the role of its declaration, with one exception: where no declaration names an
identifier, the first property that may stand for one is made the identifier. So at most one property
changes its role, from a plain one, and the version, the sequence token and the join stay what they
are.
-/

namespace ObjectDocument

namespace PropertyDefinition

/-- The wire name that a declaration leads to. -/
def wireName (config : Config) (d : PropertyDefinition) : String :=
  config.naming.resolve d.name (d.field.mainField?.bind (·.name))

/-- Whether the property is in documents and in their mapping: it is neither transient nor a version
or a sequence token. -/
def travels (d : PropertyDefinition) : Bool :=
  !(Property.roleOf d).isOutOfBand && d.access ≠ .transient

/-- Whether the property is the identifier if it is the first such one and none is declared. -/
def mayIdentify (d : PropertyDefinition) : Bool :=
  d.role = none && (d.name = "id" || d.name = "documentId") && d.kind.isIdentifier &&
    d.access ≠ .transient

end PropertyDefinition

namespace Property

variable {config : Config} {entity : String} {position : Nat} {d : PropertyDefinition}
  {p : Property}

/-- What a property takes over from its declaration, before one becomes the identifier. -/
structure Realizes (config : Config) (d : PropertyDefinition) (p : Property) : Prop where
  declares : Declares d p
  fieldName_eq : p.fieldName = d.wireName config
  fieldType_eq : p.fieldType = d.storageType
  spec_eq : p.spec = d.field
  relations_eq : p.relations = d.relations

theorem realizes_of_build (h : build config entity position d = .ok p) :
    Realizes config d p ∧ p.role = roleOf d ∧ d.Valid := by
  have hvalid : d.Valid := exists_build_iff.mp ⟨p, h⟩
  obtain ⟨-, -, -, converter, -, rfl⟩ := build_eq_ok_iff.mp h
  exact ⟨⟨⟨rfl, rfl, rfl, rfl⟩, rfl, rfl, rfl, rfl⟩, rfl, hvalid⟩

theorem converterFor_of_build (h : build config entity position d = .ok p) :
    converterFor entity d = .ok p.converter := by
  obtain ⟨-, -, -, converter, hconverter, rfl⟩ := build_eq_ok_iff.mp h
  exact hconverter

/-- A property may become the identifier exactly if its declaration says so. -/
theorem Realizes.isImplicitId_eq (h : Realizes config d p) (hrole : p.role = roleOf d) :
    p.isImplicitId = d.mayIdentify := by
  rw [isImplicitId, PropertyDefinition.mayIdentify, hrole, h.declares.name_eq, h.declares.kind_eq,
    h.declares.access_eq]
  have hnames : implicitIdNames.contains d.name = (d.name = "id" || d.name = "documentId") := by
    simp [implicitIdNames]
  rw [hnames]
  -- The kinds of identifiers are neither those of sequence tokens nor those of joins.
  cases hkind : d.kind.isIdentifier with
  | false => simp
  | true =>
      have hplain : (roleOf d = .plain) ↔ d.role = none := by
        rcases isIdentifier_iff.mp hkind with h | h | h <;>
          cases hd : d.role with
          | none => simp [roleOf, h, hd, Kind.element]
          | some r => cases r <;> simp [roleOf, h, hd]
      simp [hplain]

/-- Becoming the identifier changes the role of a property only. -/
theorem Realizes.promote (h : Realizes config d p) (hp : p.isImplicitId = true) :
    Realizes config d { p with role := .id } :=
  ⟨Descriptor.declares_promote h.declares hp, h.fieldName_eq, h.fieldType_eq, h.spec_eq,
    h.relations_eq⟩

/-- What a property of a descriptor takes over from its declaration. -/
structure Represents (config : Config) (d : PropertyDefinition) (p : Property) : Prop extends
    Realizes config d p where
  valid : d.Valid
  role_eq : p.role = roleOf d ∨ p.role = .id ∧ d.mayIdentify = true

theorem Represents.declared (h : Realizes config d p ∧ p.role = roleOf d ∧ d.Valid) :
    Represents config d p := by
  obtain ⟨hrealizes, hrole, hvalid⟩ := h
  exact ⟨hrealizes, hvalid, .inl hrole⟩

theorem Represents.promoted (h : Realizes config d p ∧ p.role = roleOf d ∧ d.Valid)
    (hp : p.isImplicitId = true) : Represents config d { p with role := .id } := by
  obtain ⟨hrealizes, hrole, hvalid⟩ := h
  have hmay : d.mayIdentify = true := hrealizes.isImplicitId_eq hrole ▸ hp
  exact ⟨hrealizes.promote hp, hvalid, .inr ⟨rfl, hmay⟩⟩

/-- Roles other than that of the identifier are the declared ones. -/
theorem Represents.roleOf_eq (h : Represents config d p) {role : Role} (hp : p.role = role)
    (hid : role ≠ .id) : roleOf d = role := by
  rcases h.role_eq with hrole | ⟨hrole, -⟩
  · rw [← hrole, hp]
  · exact absurd (hp.symm.trans hrole) hid

/-- A plain property and the identifier are declared as one of the two. -/
theorem Represents.roleOf_plain_or_id (h : Represents config d p)
    (hp : p.role = .plain ∨ p.role = .id) : roleOf d = .plain ∨ roleOf d = .id := by
  rcases h.role_eq with hrole | ⟨-, hmay⟩
  · rwa [← hrole]
  · simp only [PropertyDefinition.mayIdentify, Bool.and_eq_true, decide_eq_true_eq] at hmay
    left
    rcases isIdentifier_iff.mp hmay.1.2 with hkind | hkind | hkind <;>
      simp [roleOf, hmay.1.1.1, hkind, Kind.element]

/-- A property is mapped if it is read or written. -/
theorem isMapped_eq (p : Property) : p.isMapped = (p.isReadable || p.isWritable) := by
  rw [isMapped, isReadable, isWritable, ← Bool.and_or_distrib_left]
  cases p.access <;> rfl

theorem Represents.isMapped_eq_travels (h : Represents config d p) : p.isMapped = d.travels := by
  rw [isMapped, PropertyDefinition.travels, h.declares.access_eq, h.declares.isOutOfBand_eq]

end Property

namespace Descriptor

open Property

variable {config : Config} {entity : String} {position : Nat} {ds : List PropertyDefinition}
  {ps : List Property}

/-! ## Properties in order of declaration -/

theorem exists_buildProperties_iff : (∃ ps, buildProperties config entity position ds = .ok ps) ↔
    ∀ d ∈ ds, d.Valid := by
  induction ds generalizing position with
  | nil => simp [buildProperties]
  | cons d ds ih =>
      have hhead : (∃ p, Property.build config entity position d = .ok p) ↔ d.Valid :=
        exists_build_iff
      have htail := @ih (position + 1)
      rw [List.forall_mem_cons, ← hhead, ← htail]
      simp only [buildProperties, bind_eq_ok]
      constructor
      · rintro ⟨_, p, hp, ps, hps, -⟩
        exact ⟨⟨p, hp⟩, ps, hps⟩
      · rintro ⟨⟨p, hp⟩, ps, hps⟩
        exact ⟨p :: ps, p, hp, ps, hps, rfl⟩

theorem forall₂_realizes (h : buildProperties config entity position ds = .ok ps) :
    List.Forall₂ (fun d p => Realizes config d p ∧ p.role = roleOf d ∧ d.Valid) ds ps :=
  (forall₂_build h).imp fun _ _ ⟨_, hp⟩ => realizes_of_build hp

/-! ## The identifier -/

theorem forall₂_represents
    (h : List.Forall₂ (fun d p => Realizes config d p ∧ p.role = roleOf d ∧ d.Valid) ds ps) :
    List.Forall₂ (Represents config) ds (promoteId ps) :=
  forall₂_promoteId (fun _ _ => Represents.declared) (fun _ _ => Represents.promoted) h

/-- Making a property the identifier leaves its converter alone. -/
theorem forall₂_converterFor (h : buildProperties config entity position ds = .ok ps) :
    List.Forall₂ (fun d p => Represents config d p ∧ converterFor entity d = .ok p.converter) ds
      (promoteId ps) := by
  apply forall₂_promoteId ?_ ?_ (forall₂_build h)
  · rintro d p ⟨_, hp⟩
    exact ⟨.declared (realizes_of_build hp), converterFor_of_build hp⟩
  · rintro d p ⟨_, hp⟩ hmay
    have hconverter := converterFor_of_build hp
    exact ⟨.promoted (realizes_of_build hp) hmay, hconverter⟩

theorem findIdx?_promoteFirst (h : ∀ p ∈ ps, p.role ≠ .id) :
    (promoteFirst ps).findIdx? (fun p => p.role = .id) = ps.findIdx? (·.isImplicitId) := by
  induction ps with
  | nil => rfl
  | cons p ps ih =>
      obtain ⟨hp, hps⟩ := List.forall_mem_cons.mp h
      rw [promoteFirst]
      split
      next hmay => rw [List.findIdx?_cons, List.findIdx?_cons, hmay, decide_eq_true rfl, if_pos rfl,
        if_pos rfl]
      next hmay =>
        rw [List.findIdx?_cons, List.findIdx?_cons, decide_eq_false hp, Bool.of_not_eq_true hmay,
          ih hps]

/-- The identifier is the first property that is declared as one, and else the first that may be
one. -/
theorem findIdx?_promoteId (ps : List Property) :
    (promoteId ps).findIdx? (fun p => p.role = .id) =
      (ps.findIdx? fun p => p.role = .id).or (ps.findIdx? (·.isImplicitId)) := by
  rw [promoteId]
  split
  next hany =>
    have hsome : (ps.findIdx? fun p => p.role = .id).isSome = true := by
      rw [List.findIdx?_isSome]
      exact hany
    rw [Option.or_of_isSome hsome]
  next hany =>
    have hnone : ∀ p ∈ ps, p.role ≠ .id := by simpa using hany
    have hfind : (ps.findIdx? fun p => p.role = .id) = none := by
      simpa using hnone
    rw [hfind, Option.none_or, findIdx?_promoteFirst hnone]

/-- Making a property the identifier gives at most one. -/
theorem length_filter_promoteFirst_le (h : ∀ p ∈ ps, p.role ≠ .id) :
    ((promoteFirst ps).filter fun p => p.role = .id).length ≤ 1 := by
  induction ps with
  | nil => simp [promoteFirst]
  | cons p ps ih =>
      obtain ⟨hp, hps⟩ := List.forall_mem_cons.mp h
      rw [promoteFirst]
      split
      next =>
        have hrest : (ps.filter fun p => p.role = .id) = [] := by simpa using hps
        rw [List.filter_cons, hrest]
        simp
      next =>
        rw [List.filter_cons, decide_eq_false hp, if_neg Bool.false_ne_true]
        exact ih hps

/-- The wire names of mapped properties are distinct. -/
theorem Describes.nodup_mapped {definition : EntityDefinition} {d : Descriptor}
    (h : Describes definition d) : (d.mapped.map (·.fieldName)).Nodup := by
  have hnodup := h.nodup_fieldNames
  simp only [← isMapped_eq] at hnodup
  exact hnodup

end Descriptor

end ObjectDocument
