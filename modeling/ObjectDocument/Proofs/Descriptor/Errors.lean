import ObjectDocument.Proofs.Descriptor.Declaration

/-!
# Errors of a build

Whatever is wrong with a definition, the error says that it is the configuration. Each check of a
build has errors of its own, and none of them can arise after the build.
-/

namespace ObjectDocument

/-- Whether all errors of a step arise from the configuration. -/
abbrev FailsByConfiguration {α : Type} (x : Except Error α) : Prop :=
  FailsWith (fun e => e.isConfiguration = true) x

namespace Property

variable {config : Config} {entity : String} {position : Nat} {d : PropertyDefinition}

theorem failsWith_compile (source : String) :
    FailsByConfiguration (DateForm.compile source) := by
  rw [DateForm.compile]
  split
  · exact .ok _
  · exact .error rfl

theorem failsWith_dateConverter (kind : Kind) (formats : List DateFormat)
    (patterns : List String) : FailsByConfiguration (DateConverter.build kind formats patterns) := by
  have hnamed : FailsByConfiguration (formats.mapM DateForm.ofFormat) := by
    refine .mapM fun format _ => ?_
    obtain ⟨form, hform⟩ := exists_ofFormat format
    rw [hform]
    exact .ok form
  have hcustom : FailsByConfiguration (patterns.mapM DateForm.compile) :=
    .mapM fun source _ => failsWith_compile source
  rw [DateConverter.build]
  refine hnamed.bind fun named => hcustom.bind fun custom => ?_
  split
  · exact .ok _
  · exact .ok _

theorem failsWith_converterOf (name : String) (kind : Kind) (field : Option Field) :
    FailsByConfiguration (converterOf entity name kind field) := by
  cases field with
  | none => exact .ok none
  | some field =>
      rw [converterOf]
      cases field.converter with
      | some c => exact .ok _
      | none =>
          dsimp only
          split
          next => exact .ok none
          next =>
            split
            next => exact .error rfl
            next =>
              split
              next => exact .ok none
              next => exact (failsWith_dateConverter _ _ _).map

theorem failsWith_converterFor : FailsByConfiguration (converterFor entity d) := by
  rw [converterFor]
  split
  · exact failsWith_converterOf _ _ _
  · exact .ok none

theorem failsWith_checkInner (name : String) (inner : InnerField) :
    FailsByConfiguration (checkInner entity name inner) := by
  rw [checkInner]
  split
  · exact .error rfl
  · split
    · exact .error rfl
    · split
      · exact .error rfl
      · exact .ok _

theorem failsWith_build : FailsByConfiguration (build config entity position d) := by
  rw [build_eq]
  split
  · exact .error rfl
  · split
    · refine FailsWith.bind (.forM fun inner _ => failsWith_checkInner d.name inner) fun _ => ?_
      exact failsWith_converterFor.bind fun converter => .ok _
    · exact .error rfl

end Property

namespace Descriptor

variable {config : Config} {entity : String}

theorem failsWith_buildProperties (position : Nat) (ds : List PropertyDefinition) :
    FailsByConfiguration (buildProperties config entity position ds) := by
  induction ds generalizing position with
  | nil => exact .ok []
  | cons d ds ih =>
      rw [buildProperties]
      exact Property.failsWith_build.bind fun p => (ih (position + 1)).bind fun ps => .ok _

theorem failsWith_indexNames (ps : List Property) :
    FailsByConfiguration (indexNames entity ps) := by
  rw [indexNames]
  split
  · exact .ok _
  · exact .error rfl

theorem failsWith_uniqueRole (ps : List Property) (role : Role) :
    FailsByConfiguration (uniqueRole entity ps role) := by
  rw [uniqueRole]
  split
  · exact .ok _
  · exact .ok _
  · exact .error rfl

theorem failsWith_indexFieldNames (ps : List Property) :
    FailsByConfiguration (indexFieldNames entity ps) := by
  rw [indexFieldNames]
  split
  · exact .ok _
  · exact .error rfl

theorem failsWith_buildDocument? (document : Option DocumentDefinition) :
    FailsByConfiguration (buildDocument? document) := by
  cases document with
  | none => exact .ok _
  | some d =>
      refine FailsWith.map ?_
      rw [buildDocument]
      split
      · exact .ok _
      · exact .error rfl

theorem failsWith_failOnError (diagnostics : List Diagnostic) :
    FailsByConfiguration (failOnError entity diagnostics) := by
  rw [failOnError]
  split
  · exact .error rfl
  · exact .ok _

/-- Every error of a build arises from the configuration. -/
theorem failsWith_build (config : Config) (definition : EntityDefinition) :
    FailsByConfiguration (build config definition) := by
  rw [build]
  refine (failsWith_buildProperties 0 definition.properties).bind fun declared => ?_
  refine (failsWith_indexNames declared).bind fun _ => ?_
  refine (failsWith_uniqueRole _ _).bind fun _ => (failsWith_uniqueRole _ _).bind fun _ => ?_
  refine (failsWith_uniqueRole _ _).bind fun _ => (failsWith_uniqueRole _ _).bind fun _ => ?_
  refine (failsWith_indexFieldNames _).bind fun _ => ?_
  refine (failsWith_buildDocument? definition.document).bind fun document => ?_
  exact (failsWith_failOnError _).bind fun _ => .ok _

end Descriptor

end ObjectDocument
