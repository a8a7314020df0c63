import ObjectDocument.Proofs.Outcome
import ObjectDocument.Proofs.Validation

/-!
# Strict builds

A build uses the strictness of its configuration for nothing but the severity of what validation
finds. So a strict build is a lenient build and a look at the diagnostics of its descriptor, the first
of which is the error.
-/

namespace ObjectDocument

namespace Descriptor

variable {config : Config} {naming : NamingStrategy} {definition : EntityDefinition} {d : Descriptor}
  {diagnostic : Diagnostic}

/-! ## Diagnostics in strict mode -/

/-- Strict mode finds the same, in the same order. -/
theorem map_finding_validate (d : Descriptor) :
    (d.validate true).map (·.finding) = (d.validate false).map (·.finding) := by
  have hpromote : d.validate true = (d.validate false).map .promote := rfl
  rw [hpromote, List.map_map]
  rfl

theorem severity_of_mem_validate_strict (h : diagnostic ∈ d.validate true) :
    diagnostic.severity = .error := by
  obtain ⟨found, -, rfl⟩ := List.mem_map.mp h
  rfl

theorem validate_strict_eq_nil_iff : d.validate true = [] ↔ d.validate false = [] := by
  rw [← List.map_eq_nil_iff (f := (·.finding)), map_finding_validate, List.map_eq_nil_iff]

theorem failOnError_eq_ok_iff {entity : String} {diagnostics : List Diagnostic} :
    failOnError entity diagnostics = .ok () ↔ diagnostics.any (·.isError) = false := by
  rw [failOnError]
  split
  next found hfind =>
    refine iff_of_false (by simp) fun hany => ?_
    rw [List.any_eq_false] at hany
    exact hany found (List.mem_of_find?_eq_some hfind) (List.find?_some hfind)
  next hfind =>
    refine iff_of_true rfl ?_
    simpa using hfind

/-- A validation reports an error exactly if it is strict and there is something to report. -/
theorem any_isError_validate {strict : Bool} :
    (d.validate strict).any (·.isError) = false ↔ (strict = true → d.validate false = []) :=
  (@failOnError_eq_ok_iff d.name _).symm.trans failOnError_validate_eq_ok_iff

/-- In strict mode the first diagnostic is the error. -/
theorem failOnError_of_head? {entity : String} (h : (d.validate true).head? = some diagnostic) :
    failOnError entity (d.validate true) = .error (.invalidFieldName entity diagnostic) := by
  have herror : diagnostic.isError = true := by
    rw [Diagnostic.isError, severity_of_mem_validate_strict (List.mem_of_mem_head? h)]
    rfl
  have hfind : (d.validate true).find? (·.isError) = some diagnostic := by
    obtain ⟨rest, hrest⟩ := List.head?_eq_some_iff.mp h
    rw [hrest, List.find?_cons_of_pos herror]
  rw [failOnError, hfind]

/-! ## Builds in strict mode -/

/-- Properties are built alike under configurations with one naming strategy. -/
theorem buildProperties_congr {config' : Config} (hnaming : config.naming = config'.naming)
    (entity : String) (position : Nat) (ds : List PropertyDefinition) :
    buildProperties config entity position ds = buildProperties config' entity position ds := by
  have hproperty (i : Nat) (c : PropertyDefinition) :
      Property.build config entity i c = Property.build config' entity i c := by
    rw [Property.build, Property.build, hnaming]
  induction ds generalizing position with
  | nil => rfl
  | cons c ds ih => rw [buildProperties, buildProperties, hproperty, ih]

/-- A build is the lenient build, and a look at the diagnostics as serious as the configuration
says. -/
theorem build_eq_lenient (config : Config) (definition : EntityDefinition) :
    build config definition = build { config with strict := false } definition >>= fun d =>
      (failOnError definition.name (d.validate config.strict)).map fun _ => d := by
  have hlenient (d : Descriptor) : failOnError definition.name (d.validate false) = .ok () :=
    failOnError_validate_eq_ok_iff.mpr (by simp)
  have hproperties : buildProperties config definition.name 0 definition.properties =
      buildProperties { config with strict := false } definition.name 0 definition.properties :=
    buildProperties_congr (by rfl) _ _ _
  have hmap (e : Except Error Unit) (d : Descriptor) : (e >>= fun _ => pure d) = e.map fun _ => d := by
    cases e <;> rfl
  -- The checks in front of validation are the same; validation passes in the lenient build.
  rw [build, build, hproperties]
  simp only [bind_assoc, hlenient, hmap]
  rfl

theorem build_eq_ok_iff_lenient : build config definition = .ok d ↔
    build { config with strict := false } definition = .ok d ∧
      (config.strict = true → d.validate false = []) := by
  rw [build_eq_lenient, bind_eq_ok]
  simp only [map_eq_ok_iff]
  constructor
  · rintro ⟨built, hbuild, ⟨⟩, hfail, rfl⟩
    exact ⟨hbuild, failOnError_validate_eq_ok_iff.mp hfail⟩
  · rintro ⟨hbuild, hclean⟩
    exact ⟨d, hbuild, (), failOnError_validate_eq_ok_iff.mpr hclean, rfl⟩

/-- What a strict build gives, in terms of the lenient build of the same definition. -/
structure StrictBuild (naming : NamingStrategy) (definition : EntityDefinition) : Prop where
  /-- It succeeds with the lenient descriptor if nothing is found in it. -/
  ok_iff : ∀ d, build ⟨naming, true⟩ definition = .ok d ↔
    build ⟨naming, false⟩ definition = .ok d ∧ d.validate false = []
  /-- It fails with the first that is found. -/
  error_of_found : ∀ d, build ⟨naming, false⟩ definition = .ok d → d.validate false ≠ [] →
    ∃ diagnostic, (d.validate true).head? = some diagnostic ∧
      build ⟨naming, true⟩ definition = .error (.invalidFieldName definition.name diagnostic) ∧
      (Error.invalidFieldName definition.name diagnostic).message =
        "entity " ++ Error.ticked definition.name ++ ": " ++ diagnostic.display
  /-- It fails as the lenient build does. -/
  error_of_error : ∀ e, build ⟨naming, false⟩ definition = .error e →
    build ⟨naming, true⟩ definition = .error e

theorem strictBuild (naming : NamingStrategy) (definition : EntityDefinition) :
    StrictBuild naming definition where
  ok_iff d := by
    rw [build_eq_ok_iff_lenient]
    simp
  error_of_found d hbuild hfound := by
    have hne : d.validate true ≠ [] := fun hnil => hfound (validate_strict_eq_nil_iff.mp hnil)
    obtain ⟨diagnostic, hhead⟩ := Option.ne_none_iff_exists'.mp (mt List.head?_eq_none_iff.mp hne)
    refine ⟨diagnostic, hhead, ?_, rfl⟩
    rw [build_eq_lenient, hbuild]
    change (failOnError definition.name (d.validate true)).map _ = _
    rw [failOnError_of_head? hhead]
    rfl
  error_of_error e hbuild := by
    rw [build_eq_lenient, hbuild]
    rfl

end Descriptor

end ObjectDocument
