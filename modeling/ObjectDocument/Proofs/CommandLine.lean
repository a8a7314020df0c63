import ObjectDocument.CommandLine
import ObjectDocument.Proofs.Descriptor.Strict
import ObjectDocument.Proofs.Index.Coverage

/-!
# Exit codes

The commands go different ways about a definition. Rendering builds its descriptor under the
configuration, while a report builds it leniently and then counts the diagnostics. All of them fail
exactly where the build under the configuration does, and for one input they fail together.
-/

namespace ObjectDocument

namespace CommandLine

open Descriptor

variable {config : Config} {definition : EntityDefinition}

/-- The exit code of a command that fails where a step does. -/
def exitCode {α : Type} : Except Error α → Nat
  | .ok _ => 0
  | .error _ => 1

/-- The mapping of a descriptor can always be rendered. No entity type is known there, so an embedded
entity has no properties. -/
theorem code_renderMapping (config : Config) (definition : EntityDefinition) :
    (renderMapping config definition).code = exitCode (build config definition) := by
  rw [renderMapping]
  split
  next e hbuild =>
    rw [hbuild]
    rfl
  next d hbuild =>
    obtain ⟨m, hm⟩ : ∃ m, (Mapping.build ⟨[]⟩ d).eval (Family.describe ⟨[]⟩ config) = .ok m := by
      apply Mapping.exists_eval_unfold
      apply Mapping.exists_describe
      intro type htype
      cases htype
    rw [hbuild, hm]
    rfl

theorem code_renderSettings (config : Config) (definition : EntityDefinition) :
    (renderSettings config definition).code = exitCode (build config definition) := by
  rw [renderSettings]
  split
  next e hbuild =>
    rw [hbuild]
    rfl
  next d hbuild =>
    rw [hbuild]
    rfl

/-- A report fails where a build under the configuration would, though its own build is lenient. -/
theorem code_report (config : Config) (definition : EntityDefinition) :
    (report config definition).code = exitCode (build config definition) := by
  rw [report]
  split
  next e hlenient =>
    have hbuild : build config definition = .error e := by
      rw [build_eq_lenient, hlenient]
      rfl
    rw [hbuild]
    rfl
  next d hlenient =>
    dsimp only
    by_cases hclean : config.strict = true → d.validate false = []
    · have hbuild : build config definition = .ok d :=
        build_eq_ok_iff_lenient.mpr ⟨hlenient, hclean⟩
      rw [hbuild, any_isError_validate.mpr hclean]
      rfl
    · have hfound : (d.validate config.strict).any (·.isError) = true := by
        rw [← Bool.not_eq_false]
        exact fun hany => hclean (any_isError_validate.mp hany)
      cases hbuild : build config definition with
      | error e =>
          rw [hfound]
          rfl
      | ok built =>
          obtain ⟨hbuilt, hclean'⟩ := build_eq_ok_iff_lenient.mp hbuild
          obtain rfl : d = built := Except.ok.inj (hlenient.symm.trans hbuilt)
          exact absurd hclean' hclean

/-- Every command on an input that can be understood fails where the build of its definition does. -/
theorem code_execute {configText text : String} (command : Command)
    (hconfig : Config.parse configText = .ok config)
    (hdefinition : EntityDefinition.parse? text = some definition) :
    (execute configText command (some text)).code = exitCode (build config definition) := by
  have hinput : (some text).bind EntityDefinition.parse? = some definition := hdefinition
  rw [execute, hconfig, hinput]
  cases command with
  | mapping => exact code_renderMapping config definition
  | settings => exact code_renderSettings config definition
  | validate => exact code_report config definition

/-- The command does not matter for the exit code. -/
theorem code_execute_eq (configText : String) (input : Option String) (command command' : Command) :
    (execute configText command input).code = (execute configText command' input).code := by
  cases hconfig : Config.parse configText with
  | error fault => rw [execute, execute, hconfig]
  | ok config =>
      cases hinput : input.bind EntityDefinition.parse? with
      | none => rw [execute, execute, hconfig, hinput]
      | some definition =>
          obtain ⟨text, rfl, hdefinition⟩ := Option.bind_eq_some_iff.mp hinput
          rw [code_execute command hconfig hdefinition, code_execute command' hconfig hdefinition]

/-- Strict mode is lenient mode and a validation that finds nothing: in builds, in what validation
finds, and in the exit codes of the commands. -/
theorem strict_mode (naming : NamingStrategy) (definition : EntityDefinition) :
    StrictBuild naming definition ∧
    (∀ d : Descriptor, (d.validate true).map (·.finding) = (d.validate false).map (·.finding) ∧
      ∀ diagnostic ∈ d.validate true, diagnostic.severity = .error) ∧
    (∀ strict, (renderMapping ⟨naming, strict⟩ definition).code =
        exitCode (build ⟨naming, strict⟩ definition) ∧
      (renderSettings ⟨naming, strict⟩ definition).code =
        exitCode (build ⟨naming, strict⟩ definition) ∧
      (report ⟨naming, strict⟩ definition).code =
        exitCode (build ⟨naming, strict⟩ definition)) ∧
    ∀ (configText : String) (input : Option String) (command command' : Command),
      (execute configText command input).code = (execute configText command' input).code := by
  refine ⟨strictBuild naming definition, fun d => ⟨map_finding_validate d, ?_⟩, fun strict => ?_,
    code_execute_eq⟩
  · intro diagnostic hdiagnostic
    exact severity_of_mem_validate_strict hdiagnostic
  · exact ⟨code_renderMapping _ _, code_renderSettings _ _, code_report _ _⟩

section Sample

/-- Notes, with a text that is stored under a name that the search engine reserves. -/
def note : EntityDefinition where
  name := "Note"
  properties := [{ name := "text", kind := .string, field := .single { name := some "_meta" } }]

/-- Notes can be built, but not in strict mode, where every command fails. -/
theorem strict_mode_note : ∃ d diagnostic, build ⟨.identity, false⟩ note = .ok d ∧
    d.validate false ≠ [] ∧ (d.validate true).head? = some diagnostic ∧
    build ⟨.identity, true⟩ note = .error (.invalidFieldName "Note" diagnostic) ∧
    (report ⟨.identity, false⟩ note).code = 0 ∧ (report ⟨.identity, true⟩ note).code = 1 := by
  obtain ⟨hbuild, -, hcodes, -⟩ := strict_mode .identity note
  obtain ⟨d, hd⟩ : ∃ d, build ⟨.identity, false⟩ note = .ok d := ⟨_, rfl⟩
  have hfound : d.validate false ≠ [] := by
    cases hd
    decide
  obtain ⟨diagnostic, hhead, herror, -⟩ := hbuild.error_of_found d hd hfound
  refine ⟨d, diagnostic, hd, hfound, hhead, herror, ?_, ?_⟩
  · rw [(hcodes false).2.2, hd]
    rfl
  · rw [(hcodes true).2.2, herror]
    rfl

end Sample

end CommandLine

end ObjectDocument
