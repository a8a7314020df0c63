import ObjectDocument.Proofs.Descriptor.Roles
import ObjectDocument.Proofs.Index.Name
import ObjectDocument.Proofs.Validation

/-!
# Valid definitions

A descriptor is built of a definition exactly if the definition is valid: each property for itself,
their names, roles and wire names together, the name of the index, and in strict mode the names that
fields get in the index. None of these conditions mentions the steps of a build, so it does not
matter that a property is made the identifier halfway, between two of its checks.
-/

namespace ObjectDocument

/-- The declarations whose properties are in documents and in their mapping. -/
def EntityDefinition.travelling (definition : EntityDefinition) : List PropertyDefinition :=
  definition.properties.filter (·.travels)

/-- The names that a declaration leads to in the index: its wire name, and one for each inner
field. -/
def PropertyDefinition.indexedNames (config : Config) (d : PropertyDefinition) : List String :=
  d.wireName config ::
    d.field.innerFields.map fun inner => d.wireName config ++ "." ++ inner.suffix

/-- Names of fields that strict mode does not object to: each is valid, none is reserved, and two
that differ do not only differ in case. -/
structure EntityDefinition.CleanNames (config : Config) (definition : EntityDefinition) : Prop where
  valid : ∀ d ∈ definition.travelling, ∀ name ∈ d.indexedNames config,
    Validation.isValidName name = true
  unreserved : ∀ d ∈ definition.travelling, d.wireName config ∉ Validation.reservedNames
  distinct : ∀ d ∈ definition.travelling, ∀ e ∈ definition.travelling,
    Text.lowercase (d.wireName config) = Text.lowercase (e.wireName config) →
      d.wireName config = e.wireName config

/-- A definition from which a descriptor can be built. -/
structure EntityDefinition.Valid (config : Config) (definition : EntityDefinition) : Prop where
  properties : ∀ d ∈ definition.properties, d.Valid
  nodup_names : (definition.properties.map (·.name)).Nodup
  /-- At most one property is declared as the identifier, the version, the sequence token or the
  join. -/
  one_role : ∀ role ≠ .plain,
    (definition.properties.filter fun d => Property.roleOf d = role).length ≤ 1
  nodup_wireNames : (definition.travelling.map (·.wireName config)).Nodup
  indexName : ∀ document, definition.document = some document →
    document.indexName ≠ "" ∧ IndexName.Template document.indexName.toList
  cleanNames : config.strict = true → definition.CleanNames config

namespace Descriptor

open Property

variable {config : Config} {definition : EntityDefinition} {ds : List PropertyDefinition}
  {ps : List Property}

/-! ## Roles -/

/-- Making a property the identifier leaves the other roles where they are. -/
theorem filter_promoteFirst {role : Role} (hplain : role ≠ .plain) (hid : role ≠ .id) :
    (promoteFirst ps).filter (fun p => p.role = role) = ps.filter fun p => p.role = role := by
  induction ps with
  | nil => rfl
  | cons p ps ih =>
      rw [promoteFirst]
      split
      next hp =>
        have hrole : p.role = .plain := by
          simp only [isImplicitId, Bool.and_eq_true, decide_eq_true_eq] at hp
          exact hp.1.1.1
        simp [hrole, hplain.symm, hid.symm]
      next => rw [List.filter_cons, List.filter_cons, ih]

/-- Making a property the identifier gives a role to no second property. -/
theorem length_filter_promoteId_le_iff {role : Role} (hplain : role ≠ .plain) :
    ((promoteId ps).filter fun p => p.role = role).length ≤ 1 ↔
      (ps.filter fun p => p.role = role).length ≤ 1 := by
  rw [promoteId]
  split
  next => rfl
  next hany =>
    by_cases hid : role = .id
    · have hnone : ∀ p ∈ ps, p.role ≠ .id := by simpa using hany
      have hempty : (ps.filter fun p => p.role = role) = [] := by simpa [hid] using hnone
      rw [hid] at hempty ⊢
      rw [hempty]
      exact iff_of_true (length_filter_promoteFirst_le hnone) (Nat.zero_le 1)
    · rw [filter_promoteFirst hplain hid]

/-- Each role is given to one property at most exactly if it is declared at most once. -/
theorem one_role_iff (h : List.Forall₂ (fun d p => p.role = roleOf d) ds ps) :
    (∀ role ≠ .plain, ((promoteId ps).filter fun p => p.role = role).length ≤ 1) ↔
      ∀ role ≠ .plain, (ds.filter fun d => roleOf d = role).length ≤ 1 := by
  have hlength (role : Role) : (ds.filter fun d => roleOf d = role).length =
      (ps.filter fun p => p.role = role).length := by
    refine (List.rel_filter ?_ h).length_eq
    intro d p hp
    simp [hp]
  simp only [hlength]
  refine forall_congr' fun role => ?_
  exact forall_congr' fun hplain => length_filter_promoteId_le_iff hplain

/-! ## Wire names -/

/-- The properties that documents or their mapping hold are those of the declarations that
travel. -/
theorem forall₂_mapped (h : List.Forall₂ (Represents config) ds ps) :
    List.Forall₂ (Represents config) (ds.filter (·.travels)) (ps.filter (·.isMapped)) := by
  refine List.rel_filter ?_ h
  intro d p hp
  exact iff_of_eq (congrArg (· = true) hp.isMapped_eq_travels.symm)

theorem map_fieldName (h : List.Forall₂ (Represents config) ds ps) :
    (ps.filter (·.isMapped)).map (·.fieldName) =
      (ds.filter (·.travels)).map (·.wireName config) := by
  refine (map_eq_map_of_forall₂ ?_).symm
  exact (forall₂_mapped h).imp fun d p hp => hp.fieldName_eq.symm

theorem map_indexedNames (h : List.Forall₂ (Represents config) ds ps) :
    (ps.filter (·.isMapped)).map Validation.indexedNames =
      (ds.filter (·.travels)).map (·.indexedNames config) := by
  refine (map_eq_map_of_forall₂ ?_).symm
  refine (forall₂_mapped h).imp fun d p hp => ?_
  rw [PropertyDefinition.indexedNames, Validation.indexedNames, hp.fieldName_eq, hp.spec_eq]

theorem map_fieldName_travelling (h : List.Forall₂ (Represents config) ds ps) :
    (ps.filter fun p => p.isReadable || p.isWritable).map (·.fieldName) =
      (ds.filter (·.travels)).map (·.wireName config) := by
  rw [← map_fieldName h]
  simp only [isMapped_eq]

/-- The diagnostics of a descriptor are about the names of its definition. -/
theorem validate_represents_iff {d : Descriptor}
    (h : List.Forall₂ (Represents config) definition.properties d.properties) :
    d.validate false = [] ↔ definition.CleanNames config := by
  have hnames : d.mapped.map (·.fieldName) = definition.travelling.map (·.wireName config) :=
    map_fieldName h
  have hindexed : d.mapped.map Validation.indexedNames =
      definition.travelling.map (·.indexedNames config) := map_indexedNames h
  -- Each condition is one on the list of names.
  have hvalid : (∀ p ∈ d.mapped, ∀ name ∈ Validation.indexedNames p,
      Validation.isValidName name = true) ↔ ∀ names ∈ d.mapped.map Validation.indexedNames,
        ∀ name ∈ names, Validation.isValidName name = true := by
    simp only [List.forall_mem_map]
  have hunreserved : (∀ p ∈ d.mapped, p.fieldName ∉ Validation.reservedNames) ↔
      ∀ name ∈ d.mapped.map (·.fieldName), name ∉ Validation.reservedNames := by
    simp only [List.forall_mem_map]
  have hdistinct : (∀ p ∈ d.mapped, ∀ q ∈ d.mapped,
      Text.lowercase p.fieldName = Text.lowercase q.fieldName → p.fieldName = q.fieldName) ↔
      ∀ a ∈ d.mapped.map (·.fieldName), ∀ b ∈ d.mapped.map (·.fieldName),
        Text.lowercase a = Text.lowercase b → a = b := by
    simp only [List.forall_mem_map]
  rw [validate_eq_nil_iff, hvalid, hunreserved, hdistinct, hnames, hindexed]
  simp only [List.forall_mem_map]
  exact ⟨fun ⟨hv, hu, hd⟩ => ⟨hv, hu, hd⟩, fun hclean => ⟨hclean.1, hclean.2, hclean.3⟩⟩

/-! ## Index names -/

theorem exists_buildDocument?_iff {document : Option DocumentDefinition} :
    (∃ metadata, buildDocument? document = .ok metadata) ↔ ∀ d, document = some d →
      d.indexName ≠ "" ∧ IndexName.Template d.indexName.toList := by
  cases document with
  | none => simp [buildDocument?]
  | some d =>
      rw [buildDocument?, exists_map_eq_ok_iff]
      simp only [Option.some.injEq, forall_eq', ← IndexName.exists_parse_iff, buildDocument]
      cases IndexName.parse d.indexName with
      | ok name => simp
      | error fault => simp

/-! ## Definitions -/

/-- A descriptor can be built exactly from a valid definition. -/
theorem exists_build_iff_valid (config : Config) (definition : EntityDefinition) :
    (∃ d, build config definition = .ok d) ↔ definition.Valid config := by
  -- What is declared is checked before the identifier is chosen, the rest on what it leads to.
  have hparts {declared : List Property}
      (h : buildProperties config definition.name 0 definition.properties = .ok declared) :
      definition.properties.map (·.name) = declared.map (·.name) ∧
      ((∀ role ≠ .plain, ((promoteId declared).filter fun p => p.role = role).length ≤ 1) ↔
        ∀ role ≠ .plain,
          (definition.properties.filter fun d => roleOf d = role).length ≤ 1) ∧
      List.Forall₂ (Represents config) definition.properties (promoteId declared) := by
    have hrealizes := forall₂_realizes h
    exact ⟨map_eq_map_of_forall₂ (hrealizes.imp fun d p hp => hp.1.declares.name_eq.symm),
      one_role_iff (hrealizes.imp fun d p hp => hp.2.1), forall₂_represents hrealizes⟩
  simp only [build_eq_ok_iff]
  constructor
  · rintro ⟨_, declared, document, hdeclared, hnames, hroles, hfields, hdocument, hfail, -⟩
    obtain ⟨hnames', hroles', hrepresents⟩ := hparts hdeclared
    exact {
      properties := exists_buildProperties_iff.mp ⟨declared, hdeclared⟩
      nodup_names := hnames' ▸ hnames
      one_role := hroles'.mp hroles
      nodup_wireNames := map_fieldName_travelling hrepresents ▸ hfields
      indexName := exists_buildDocument?_iff.mp ⟨document, hdocument⟩
      cleanNames := fun hstrict => (validate_represents_iff hrepresents).mp
        (failOnError_validate_eq_ok_iff.mp hfail hstrict) }
  · intro h
    obtain ⟨declared, hdeclared⟩ := exists_buildProperties_iff.mpr h.properties
    obtain ⟨document, hdocument⟩ := exists_buildDocument?_iff.mpr h.indexName
    obtain ⟨hnames, hroles, hrepresents⟩ := hparts hdeclared
    refine ⟨_, declared, document, hdeclared, hnames ▸ h.nodup_names, hroles.mpr h.one_role,
      (map_fieldName_travelling hrepresents).symm ▸ h.nodup_wireNames, hdocument, ?_, rfl⟩
    refine failOnError_validate_eq_ok_iff.mpr fun hstrict => ?_
    exact (validate_represents_iff hrepresents).mpr (h.cleanNames hstrict)

end Descriptor

end ObjectDocument
