import ObjectDocument.Descriptor.Build
import ObjectDocument.Proofs.Outcome

/-!
# Valid declarations of properties

A property can be built from a declaration when its role fits its kind, its storage types hold its
values and its date formats are complete. What is built then takes everything over from the
declaration, and adds the wire name, the storage type and the converter.
-/

namespace ObjectDocument

/-- A declaration from which a property can be built. -/
structure PropertyDefinition.Valid (d : PropertyDefinition) : Prop where
  id_kind : d.role = some .id → d.kind = .string ∨ d.kind = .long ∨ d.kind = .integer
  version_kind : d.role = some .version → d.kind = .long ∨ d.kind = .integer
  scalar : d.role = none → d.kind.element = .sequenceToken ∨ d.kind.element = .join →
    d.kind.isCollection = false
  relations_ne_nil : d.role = none → d.kind.element = .join → d.relations ≠ []
  relations_eq_nil : ¬(d.role = none ∧ d.kind.element = .join) → d.relations = []
  accepts : (Property.declaredType d.field).accepts d.kind = true
  suffix : ∀ inner ∈ d.field.innerFields, Text.isBlankText inner.suffix = false
  inner_type : ∀ inner ∈ d.field.innerFields,
    inner.field.type ∉ [.auto, .object, .nested, .flattened, .join]
  /-- A date field with a format of its own has a pattern, and dates in it have patterns that
  compile. -/
  patterns : Property.roleOf d = .plain ∨ Property.roleOf d = .id →
    ∀ field, d.field.mainField? = some field → field.converter = none →
      field.type = .date ∨ field.type = .dateNanos →
        (.custom ∈ field.dateFormats → field.patterns ≠ []) ∧
        (d.kind.isTemporal = true →
          ∀ source ∈ field.patterns, ∃ p, Pattern.compile source = .ok p)

/-- The storage type of the property: the declared one, or the inferred one in place of an automatic
one. -/
def PropertyDefinition.storageType (d : PropertyDefinition) : FieldType :=
  if Property.declaredType d.field = .auto then (FieldType.infer? d.kind).getD .auto
  else Property.declaredType d.field

namespace Property

variable {config : Config} {entity : String} {position : Nat} {d : PropertyDefinition}

/-! ## Roles -/

theorem isIdentifier_iff {kind : Kind} :
    kind.isIdentifier = true ↔ kind = .string ∨ kind = .long ∨ kind = .integer := by
  cases kind <;> simp [Kind.isIdentifier]

theorem isVersion_iff {kind : Kind} : kind.isVersion = true ↔ kind = .long ∨ kind = .integer := by
  cases kind <;> simp [Kind.isVersion]

theorem roleOf_eq_id_iff : roleOf d = .id ↔ d.role = some .id := by
  unfold roleOf
  split <;> simp_all

theorem roleOf_eq_version_iff : roleOf d = .version ↔ d.role = some .version := by
  unfold roleOf
  split <;> simp_all

theorem roleOf_eq_sequenceToken_iff :
    roleOf d = .sequenceToken ↔ d.role = none ∧ d.kind.element = .sequenceToken := by
  unfold roleOf
  split <;> simp_all

theorem roleOf_eq_join_iff : roleOf d = .join ↔ d.role = none ∧ d.kind.element = .join := by
  unfold roleOf
  split <;> simp_all

/-- The conditions on the role of a valid declaration. -/
theorem roleFault?_eq_none_iff : roleFault? d = none ↔
    (roleOf d = .id → d.kind.isIdentifier = true) ∧
    (roleOf d = .version → d.kind.isVersion = true) ∧
    (roleOf d = .sequenceToken ∨ roleOf d = .join → d.kind.isCollection = false) ∧
    (roleOf d = .join ↔ d.relations ≠ []) := by
  unfold roleFault?
  generalize roleOf d = role
  cases role <;> simp <;> grind

/-! ## Converters -/

/-- Every named format has a text form, or none is asked for. -/
theorem exists_ofFormat (format : DateFormat) : ∃ form, DateForm.ofFormat format = .ok form := by
  cases format with
  | _ => exact ⟨_, rfl⟩

theorem dateForm_compile_eq_ok_iff {source : String} :
    (∃ p, DateForm.compile source = .ok p) ↔ ∃ p, Pattern.compile source = .ok p := by
  rw [DateForm.compile]
  cases Pattern.compile source with
  | ok p => simp
  | error fault => simp

/-- Only a pattern that does not compile keeps a date converter from being built. -/
theorem exists_dateConverter_iff {kind : Kind} {formats : List DateFormat}
    {patterns : List String} : (∃ c, DateConverter.build kind formats patterns = .ok c) ↔
      ∀ source ∈ patterns, ∃ p, Pattern.compile source = .ok p := by
  obtain ⟨named, hnamed⟩ := exists_mapM_eq_ok_iff.mpr fun format (_ : format ∈ formats) =>
    exists_ofFormat format
  simp only [← dateForm_compile_eq_ok_iff, ← exists_mapM_eq_ok_iff]
  rw [DateConverter.build]
  constructor
  · rintro ⟨c, hc⟩
    obtain ⟨_, _, hc⟩ := bind_eq_ok.mp hc
    obtain ⟨custom, hcustom, -⟩ := bind_eq_ok.mp hc
    exact ⟨custom, hcustom⟩
  · rintro ⟨custom, hcustom⟩
    simp only [bind, Except.bind, hnamed, hcustom]
    split
    · exact ⟨_, rfl⟩
    · exact ⟨_, rfl⟩

/-- The converter of a declaration. A version, a sequence token and a join have none. -/
def converterFor (entity : String) (d : PropertyDefinition) :
    Except Error (Option PropertyConverter) :=
  if roleOf d = .plain ∨ roleOf d = .id then
    converterOf entity d.name d.kind d.field.mainField?
  else .ok none

theorem isDate_iff {type : FieldType} : type.isDate = true ↔ type = .date ∨ type = .dateNanos := by
  cases type <;> simp [FieldType.isDate]

/-- A field without a converter of its own has complete date formats if it is a date field. -/
theorem exists_converterOf_iff {name : String} {kind : Kind} {field : Field}
    (hfield : field.converter = none) :
    (∃ c, converterOf entity name kind (some field) = .ok c) ↔
      (field.type = .date ∨ field.type = .dateNanos →
        (.custom ∈ field.dateFormats → field.patterns ≠ []) ∧
        (kind.isTemporal = true →
          ∀ source ∈ field.patterns, ∃ p, Pattern.compile source = .ok p)) := by
  rw [converterOf, ← isDate_iff, hfield]
  dsimp only
  split
  next hdate => simp_all
  next hdate =>
    split
    next hcustom => simp_all
    next hcustom =>
      split
      next htemporal => simp_all
      next htemporal =>
        rw [exists_map_eq_ok_iff, exists_dateConverter_iff]
        simp_all

/-- A declaration has its converter if its date fields have complete formats. -/
theorem exists_converterFor_iff : (∃ c, converterFor entity d = .ok c) ↔
    (roleOf d = .plain ∨ roleOf d = .id → ∀ field, d.field.mainField? = some field →
      field.converter = none → field.type = .date ∨ field.type = .dateNanos →
        (.custom ∈ field.dateFormats → field.patterns ≠ []) ∧
        (d.kind.isTemporal = true →
          ∀ source ∈ field.patterns, ∃ p, Pattern.compile source = .ok p)) := by
  rw [converterFor]
  split
  next hrole =>
    cases hfield : d.field.mainField? with
    | none => simp [converterOf]
    | some field =>
        cases hc : field.converter with
        | some c => simp_all [converterOf]
        | none =>
            rw [exists_converterOf_iff hc]
            simp_all
  next hrole => simp [hrole]

/-! ## Building a property -/

theorem checkInner_eq_ok_iff {name : String} {inner : InnerField} :
    checkInner entity name inner = .ok () ↔ Text.isBlankText inner.suffix = false ∧
      inner.field.type ∉ [.auto, .object, .nested, .flattened, .join] := by
  rw [checkInner]
  cases Text.isBlankText inner.suffix with
  | true => simp
  | false =>
      generalize inner.field.type = type
      cases type <;> simp [FieldType.isObject]

/-- The property of a declaration, with its converter. -/
def ofDefinition (config : Config) (position : Nat) (d : PropertyDefinition)
    (converter : Option PropertyConverter) : Property where
  position := position
  name := d.name
  fieldName := config.naming.resolve d.name (d.field.mainField?.bind (·.name))
  kind := d.kind
  fieldType := d.storageType
  spec := d.field
  relations := d.relations
  role := roleOf d
  access := d.access
  converter := converter

/-- The checks of a declaration, one after another. -/
theorem build_eq (config : Config) (entity : String) (position : Nat) (d : PropertyDefinition) :
    build config entity position d =
      match roleFault? d with
      | some fault => .error (.invalidConfiguration entity d.name fault)
      | none =>
        if (declaredType d.field).accepts d.kind then do
          d.field.innerFields.forM (checkInner entity d.name)
          let converter ← converterFor entity d
          pure (ofDefinition config position d converter)
        else .error (.unsupportedFieldType entity d.name (declaredType d.field)) := by
  unfold build converterFor ofDefinition
  cases roleFault? d with
  | some fault => rfl
  | none =>
      dsimp only
      cases (declaredType d.field).accepts d.kind with
      | false => rfl
      | true =>
          simp only [pure_bind, Bool.not_true, Bool.false_eq_true, if_false, if_true]
          refine congrArg _ (funext fun _ => ?_)
          split
          · rfl
          · rfl

/-- What is built of a declaration, and when. -/
theorem build_eq_ok_iff {p : Property} : build config entity position d = .ok p ↔
    roleFault? d = none ∧ (declaredType d.field).accepts d.kind = true ∧
    (∀ inner ∈ d.field.innerFields, checkInner entity d.name inner = .ok ()) ∧
    ∃ converter, converterFor entity d = .ok converter ∧
      p = ofDefinition config position d converter := by
  rw [build_eq, ← forM_eq_ok_iff]
  cases roleFault? d with
  | some fault => simp
  | none =>
      cases (declaredType d.field).accepts d.kind with
      | false => simp
      | true =>
          dsimp only
          rw [if_pos rfl]
          constructor
          · intro h
            obtain ⟨_, hinner, h⟩ := bind_eq_ok.mp h
            obtain ⟨converter, hconverter, h⟩ := bind_eq_ok.mp h
            exact ⟨rfl, rfl, hinner, converter, hconverter, (Except.ok.inj h).symm⟩
          · rintro ⟨-, -, hinner, converter, hconverter, rfl⟩
            rw [hinner, hconverter]
            rfl

/-- A property can be built exactly from a valid declaration. -/
theorem exists_build_iff : (∃ p, build config entity position d = .ok p) ↔ d.Valid := by
  have hbuild : (∃ p, build config entity position d = .ok p) ↔ roleFault? d = none ∧
      (declaredType d.field).accepts d.kind = true ∧
      (∀ inner ∈ d.field.innerFields, checkInner entity d.name inner = .ok ()) ∧
      ∃ c, converterFor entity d = .ok c := by
    simp only [build_eq_ok_iff]
    constructor
    · rintro ⟨p, hrole, haccepts, hinner, c, hc, -⟩
      exact ⟨hrole, haccepts, hinner, c, hc⟩
    · rintro ⟨hrole, haccepts, hinner, c, hc⟩
      exact ⟨_, hrole, haccepts, hinner, c, hc, rfl⟩
  rw [hbuild, exists_converterFor_iff, roleFault?_eq_none_iff]
  simp only [checkInner_eq_ok_iff, roleOf_eq_join_iff, roleOf_eq_sequenceToken_iff,
    isIdentifier_iff, isVersion_iff]
  constructor
  · rintro ⟨⟨hid, hversion, hscalar, hrelations⟩, haccepts, hinner, hpatterns⟩
    exact {
      id_kind := fun h => hid (roleOf_eq_id_iff.mpr h)
      version_kind := fun h => hversion (roleOf_eq_version_iff.mpr h)
      scalar := fun hnone h => hscalar (h.imp (⟨hnone, ·⟩) (⟨hnone, ·⟩))
      relations_ne_nil := fun hnone h => hrelations.mp ⟨hnone, h⟩
      relations_eq_nil := fun h => not_not.mp (mt hrelations.mpr h)
      accepts := haccepts
      suffix := fun inner h => (hinner inner h).1
      inner_type := fun inner h => (hinner inner h).2
      patterns := hpatterns }
  · intro h
    refine ⟨⟨fun hid => h.id_kind (roleOf_eq_id_iff.mp hid),
      fun hversion => h.version_kind (roleOf_eq_version_iff.mp hversion), ?_, ?_⟩, h.accepts,
      fun inner hinner => ⟨h.suffix inner hinner, h.inner_type inner hinner⟩, h.patterns⟩
    · rintro (⟨hnone, helement⟩ | ⟨hnone, helement⟩)
      · exact h.scalar hnone (.inl helement)
      · exact h.scalar hnone (.inr helement)
    · exact ⟨fun hjoin => h.relations_ne_nil hjoin.1 hjoin.2,
        fun hne => not_not.mp (mt h.relations_eq_nil hne)⟩

end Property

end ObjectDocument
