import ObjectDocument.Proofs.Descriptor.Validity
import ObjectDocument.Proofs.Descriptor.WellFormed

/-!
# Custom date formats

A custom date format stands for the patterns of its field, so a field that lists it should have one.
A build looks for the pattern where it derives a converter from the formats, and nowhere else: in a
main field that declares a date type and no converter, of a property that is no version. The formats
of any other date field may be changed in every way without a build taking notice.
-/

namespace ObjectDocument

namespace Field

/-- There is a pattern for the custom format, if the field has that format. -/
def HasPattern (f : Field) : Prop :=
  .custom ∈ f.dateFormats → f.patterns ≠ []

/-- Whether a converter is derived from the formats of the field, in a property with a role. -/
structure DerivesDates (f : Field) (role : Role) : Prop where
  type : f.type = .date ∨ f.type = .dateNanos
  converter : f.converter = none
  role_ne : role ≠ .version

/-- The second field differs from the first in its date formats and patterns at most. -/
def SameButFormats (f g : Field) : Prop :=
  ∃ format pattern, g = { f with format := format, pattern := pattern }

/-- The second field has other date formats and patterns than the first at most, and not even these
if a converter is derived from them. -/
def Reformed (role : Role) (f g : Field) : Prop :=
  g = f ∨ ¬f.DerivesDates role ∧ f.SameButFormats g

end Field

/-- The second declaration differs from the first in date formats and patterns from which no
converter is derived. -/
inductive FieldSpec.Reformed (role : Role) : FieldSpec → FieldSpec → Prop where
  | inferred : Reformed role .inferred .inferred
  | single {f g : Field} (main : f.Reformed role g) : Reformed role (.single f) (.single g)
  | multi {f g : Field} {inners inners' : List InnerField} (main : f.Reformed role g)
      (others : List.Forall₂ (fun i j => j.suffix = i.suffix ∧ i.field.SameButFormats j.field)
        inners inners') : Reformed role (.multi f inners) (.multi g inners')

/-- The second declaration differs from the first in date formats and patterns from which no
converter is derived. -/
def PropertyDefinition.Reformed (d e : PropertyDefinition) : Prop :=
  ∃ spec, d.field.Reformed (Property.roleOf d) spec ∧ e = { d with field := spec }

/-- The second definition differs from the first in date formats and patterns from which no converter
is derived. -/
structure EntityDefinition.Reformed (definition definition' : EntityDefinition) : Prop where
  name_eq : definition'.name = definition.name
  document_eq : definition'.document = definition.document
  properties : List.Forall₂ PropertyDefinition.Reformed definition.properties
    definition'.properties

/-- No custom date format of a date property or of an inner date field lacks a pattern. -/
structure Descriptor.PatternsComplete (d : Descriptor) : Prop where
  main : ∀ p ∈ d.properties, p.fieldType = .date ∨ p.fieldType = .dateNanos →
    ∀ f, p.field? = some f → f.HasPattern
  inner : ∀ p ∈ d.properties, ∀ i ∈ p.spec.innerFields,
    i.field.type = .date ∨ i.field.type = .dateNanos → i.field.HasPattern

/-! ## Declarations with other formats -/

theorem Field.Reformed.sameButFormats {role : Role} {f g : Field} (h : f.Reformed role g) :
    f.SameButFormats g := by
  rcases h with rfl | ⟨-, h⟩
  · exact ⟨_, _, rfl⟩
  · exact h

namespace FieldSpec.Reformed

variable {role : Role} {s t : FieldSpec}

theorem exists_mainField? (h : s.Reformed role t) {g : Field} (hg : t.mainField? = some g) :
    ∃ f, s.mainField? = some f ∧ f.Reformed role g := by
  cases h with
  | inferred => cases hg
  | single main | multi main others =>
      cases hg
      exact ⟨_, rfl, main⟩

theorem inners (h : s.Reformed role t) :
    List.Forall₂ (fun i j => j.suffix = i.suffix ∧ i.field.SameButFormats j.field) s.innerFields
      t.innerFields := by
  cases h with
  | inferred => exact .nil
  | single main => exact .nil
  | multi main others => exact others

theorem name?_eq (h : s.Reformed role t) :
    t.mainField?.bind (·.name) = s.mainField?.bind (·.name) := by
  cases h with
  | inferred => rfl
  | single main | multi main others =>
      obtain ⟨format, pattern, rfl⟩ := main.sameButFormats
      rfl

theorem declaredType_eq (h : s.Reformed role t) :
    Property.declaredType t = Property.declaredType s := by
  cases h with
  | inferred => rfl
  | single main | multi main others =>
      obtain ⟨format, pattern, rfl⟩ := main.sameButFormats
      rfl

theorem suffixes_eq (h : s.Reformed role t) :
    t.innerFields.map (·.suffix) = s.innerFields.map (·.suffix) :=
  (map_eq_map_of_forall₂ (h.inners.imp fun _ _ hij => hij.1.symm)).symm

end FieldSpec.Reformed

namespace PropertyDefinition.Reformed

variable {config : Config} {d e : PropertyDefinition}

theorem name_eq (h : d.Reformed e) : e.name = d.name := by
  obtain ⟨spec, -, rfl⟩ := h
  rfl

theorem roleOf_eq (h : d.Reformed e) : Property.roleOf e = Property.roleOf d := by
  obtain ⟨spec, -, rfl⟩ := h
  rfl

theorem travels_eq (h : d.Reformed e) : e.travels = d.travels := by
  obtain ⟨spec, -, rfl⟩ := h
  rfl

theorem wireName_eq (h : d.Reformed e) : e.wireName config = d.wireName config := by
  obtain ⟨spec, hspec, rfl⟩ := h
  rw [wireName, wireName, hspec.name?_eq]

theorem indexedNames_eq (h : d.Reformed e) : e.indexedNames config = d.indexedNames config := by
  have hinner (f : PropertyDefinition) : f.field.innerFields.map
      (fun inner => f.wireName config ++ "." ++ inner.suffix) =
        (f.field.innerFields.map (·.suffix)).map (f.wireName config ++ "." ++ ·) := by
    rw [List.map_map]
    rfl
  rw [indexedNames, indexedNames, hinner, hinner, h.wireName_eq]
  obtain ⟨spec, hspec, rfl⟩ := h
  rw [hspec.suffixes_eq]

/-- A declaration stays valid if formats change from which no converter is derived. -/
theorem valid (h : d.Reformed e) (hd : d.Valid) : e.Valid := by
  obtain ⟨spec, hspec, rfl⟩ := h
  have hinner (j : InnerField) (hj : j ∈ spec.innerFields) : ∃ i ∈ d.field.innerFields,
      j.suffix = i.suffix ∧ j.field.type = i.field.type := by
    obtain ⟨i, hi, hsuffix, format, pattern, hfield⟩ := exists_mem_of_forall₂ hspec.inners hj
    exact ⟨i, hi, hsuffix, by rw [hfield]⟩
  exact {
    id_kind := hd.id_kind
    version_kind := hd.version_kind
    scalar := hd.scalar
    relations_ne_nil := hd.relations_ne_nil
    relations_eq_nil := hd.relations_eq_nil
    accepts := hspec.declaredType_eq ▸ hd.accepts
    suffix := by
      intro j hj
      obtain ⟨i, hi, hsuffix, -⟩ := hinner j hj
      exact hsuffix ▸ hd.suffix i hi
    inner_type := by
      intro j hj
      obtain ⟨i, hi, -, htype⟩ := hinner j hj
      exact htype ▸ hd.inner_type i hi
    patterns := by
      intro hrole g hg hconverter htype
      obtain ⟨f, hf, hreformed⟩ := hspec.exists_mainField? hg
      rcases hreformed with rfl | ⟨hnone, format, pattern, rfl⟩
      · exact hd.patterns hrole g hf hconverter htype
      -- The formats of a field that is looked at are the old ones.
      · refine absurd ⟨htype, hconverter, ?_⟩ hnone
        rcases hrole with hrole | hrole
        · exact ne_of_eq_of_ne hrole (by simp)
        · exact ne_of_eq_of_ne hrole (by simp) }

end PropertyDefinition.Reformed

namespace EntityDefinition.Reformed

variable {config : Config} {definition definition' : EntityDefinition}

theorem travelling (h : definition.Reformed definition') :
    List.Forall₂ PropertyDefinition.Reformed definition.travelling definition'.travelling := by
  refine List.rel_filter ?_ h.properties
  intro d e hde
  exact iff_of_eq (congrArg (· = true) hde.travels_eq.symm)

theorem cleanNames (h : definition.Reformed definition') (hclean : definition.CleanNames config) :
    definition'.CleanNames config := by
  have hmem (e : PropertyDefinition) (he : e ∈ definition'.travelling) :
      ∃ d ∈ definition.travelling, d.Reformed e :=
    exists_mem_of_forall₂ h.travelling he
  constructor
  case valid =>
    intro e he
    obtain ⟨d, hd, hde⟩ := hmem e he
    exact hde.indexedNames_eq ▸ hclean.valid d hd
  case unreserved =>
    intro e he
    obtain ⟨d, hd, hde⟩ := hmem e he
    exact hde.wireName_eq ▸ hclean.unreserved d hd
  case distinct =>
    intro e he e' he'
    obtain ⟨d, hd, hde⟩ := hmem e he
    obtain ⟨d', hd', hde'⟩ := hmem e' he'
    rw [hde.wireName_eq, hde'.wireName_eq]
    exact hclean.distinct d hd d' hd'

end EntityDefinition.Reformed

/-! ## Builds -/

namespace Descriptor

open Property

variable {config : Config} {definition definition' : EntityDefinition} {d : Descriptor}

/-- A build takes no notice of date formats from which it derives no converter. -/
theorem exists_build_of_reformed (h : build config definition = .ok d)
    (hreformed : definition.Reformed definition') : ∃ d', build config definition' = .ok d' := by
  simp only [build_eq_ok_iff] at h ⊢
  obtain ⟨declared, document, hdeclared, hnames, hroles, hfields, hdocument, hfail, rfl⟩ := h
  have hrealizes := forall₂_realizes hdeclared
  have hrepresents := forall₂_represents hrealizes
  obtain ⟨declared', hdeclared'⟩ : ∃ declared',
      buildProperties config definition'.name 0 definition'.properties = .ok declared' := by
    refine exists_buildProperties_iff.mpr fun e he => ?_
    obtain ⟨c, hc, hce⟩ := exists_mem_of_forall₂ hreformed.properties he
    exact hce.valid (exists_buildProperties_iff.mp ⟨declared, hdeclared⟩ c hc)
  have hrealizes' := forall₂_realizes hdeclared'
  have hrepresents' := forall₂_represents hrealizes'
  refine ⟨_, declared', document, hdeclared', ?names, ?roles, ?fields, ?_, ?names', rfl⟩
  case names =>
    rw [← map_eq_map_of_forall₂ (hrealizes'.imp fun e p hp => hp.1.declares.name_eq.symm),
      ← map_eq_map_of_forall₂ (hreformed.properties.imp fun c e hce => hce.name_eq.symm),
      map_eq_map_of_forall₂ (hrealizes.imp fun c p hp => hp.1.declares.name_eq.symm)]
    exact hnames
  case roles =>
    rw [one_role_iff (hrealizes.imp fun c p hp => hp.2.1)] at hroles
    rw [one_role_iff (hrealizes'.imp fun e p hp => hp.2.1)]
    intro role hplain
    have hfilter := List.rel_filter (p := fun c => roleOf c = role) (q := fun e => roleOf e = role)
      (fun c e hce => by simp [hce.roleOf_eq]) hreformed.properties
    exact hfilter.length_eq ▸ hroles role hplain
  case fields =>
    rw [map_fieldName_travelling hrepresents] at hfields
    rw [map_fieldName_travelling hrepresents']
    have hwire : definition.travelling.map (·.wireName config) =
        definition'.travelling.map (·.wireName config) :=
      map_eq_map_of_forall₂ (hreformed.travelling.imp fun c e hce => hce.wireName_eq.symm)
    exact hwire ▸ hfields
  case names' =>
    rw [failOnError_validate_eq_ok_iff] at hfail ⊢
    intro hstrict
    have hclean := (validate_represents_iff hrepresents).mp (hfail hstrict)
    exact (validate_represents_iff hrepresents').mpr (hreformed.cleanNames hclean)
  · rw [hreformed.document_eq]
    exact hdocument

/-- A custom format has a pattern where a converter is derived from it. -/
theorem hasPattern_of_build (h : build config definition = .ok d) {p : Property}
    (hp : p ∈ d.properties) {f : Field} (hf : p.field? = some f) (hdates : f.DerivesDates p.role) :
    f.HasPattern := by
  obtain ⟨e, -, he⟩ := represents_of_mem h hp
  have hmain : e.field.mainField? = some f := by
    rw [← he.spec_eq]
    exact hf
  have haccepts : f.type.accepts e.kind = true := by
    have := he.valid.accepts
    rwa [declaredType, hmain] at this
  -- Date fields hold neither sequence tokens nor joins.
  have helement : e.kind.element ≠ .sequenceToken ∧ e.kind.element ≠ .join := by
    constructor <;> intro hkind <;> rcases hdates.type with htype | htype <;>
      simp [FieldType.accepts, htype, hkind] at haccepts
  refine (he.valid.patterns ?_ f hmain hdates.converter hdates.type).1
  cases hrole : roleOf e with
  | plain => exact .inl rfl
  | id => exact .inr rfl
  | version =>
      rcases he.role_eq with heq | ⟨-, hmay⟩
      · exact absurd (heq.trans hrole) hdates.role_ne
      · have hnone : e.role = none := by
          simp only [PropertyDefinition.mayIdentify, Bool.and_eq_true, decide_eq_true_eq] at hmay
          exact hmay.1.1.1
        rw [roleOf_eq_version_iff, hnone] at hrole
        cases hrole
  | sequenceToken => exact absurd (roleOf_eq_sequenceToken_iff.mp hrole).2 helement.1
  | join => exact absurd (roleOf_eq_join_iff.mp hrole).2 helement.2

/-- Where a converter is derived from date formats, a custom one has a pattern; no other date formats
matter to a build. -/
theorem customFormats_of_build (h : build config definition = .ok d) :
    (∀ p ∈ d.properties, ∀ f, p.field? = some f → f.DerivesDates p.role → f.HasPattern) ∧
    ∀ definition', definition.Reformed definition' → ∃ d', build config definition' = .ok d' :=
  ⟨fun _ hp _ hf hdates => hasPattern_of_build h hp hf hdates,
    fun _ hreformed => exists_build_of_reformed h hreformed⟩

/-! ## Events -/

/-- The days of events are written with a pattern, and indexed as dates of the default formats
too. -/
def event : EntityDefinition where
  name := "Event"
  properties := [{
    name := "day"
    kind := .localDate
    field := .multi { type := .date, format := some [.custom], pattern := ["dd.MM.uuuu"] }
      [⟨"plain", { type := .date }⟩] }]

theorem customFormats_of_build_event : ∃ d, build {} event = .ok d ∧
    (∀ p ∈ d.properties, ∀ f, p.field? = some f → f.DerivesDates p.role → f.HasPattern) ∧
    ∀ definition', event.Reformed definition' → ∃ d', build {} definition' = .ok d' := by
  obtain ⟨d, hd⟩ : ∃ d, build {} event = .ok d := ⟨_, rfl⟩
  exact ⟨d, hd, customFormats_of_build hd⟩

/-- An event whose day is stored as a date without saying so. Its custom format has no pattern. -/
def undatedEvent : EntityDefinition where
  name := "Event"
  properties := [{ name := "day", kind := .localDate, field := .single { format := some [.custom] } }]

/-- Not every descriptor that is built has a pattern for each custom date format. -/
theorem not_patternsComplete_undatedEvent : ¬∀ (config : Config) (definition : EntityDefinition)
    (d : Descriptor), build config definition = .ok d → d.PatternsComplete := by
  intro h
  obtain ⟨d, hd⟩ : ∃ d, build {} undatedEvent = .ok d := ⟨_, rfl⟩
  have hcomplete := h {} undatedEvent d hd
  cases hd
  exact hcomplete.main _ List.mem_cons_self (.inl rfl) _ rfl List.mem_cons_self rfl

end Descriptor

end ObjectDocument
