import Mathlib.Data.List.Basic
import ObjectDocument.Descriptor.Build

/-!
# Names without diagnostics

The checks of this library find nothing in a descriptor exactly if every name that it has in the index
is valid, no wire name is reserved, and wire names that differ do not only differ in case. All they
find are warnings, which stop a build in strict mode only.
-/

namespace ObjectDocument

namespace Validation

/-- No name collides exactly if names with one lower-case form are the same. -/
theorem collisions_eq_nil_iff {entity : String} {seen names : List String}
    (hseen : ∀ a ∈ seen, ∀ b ∈ seen, Text.lowercase a = Text.lowercase b → a = b) :
    collisions entity seen names = [] ↔ ∀ a ∈ seen ++ names, ∀ b ∈ seen ++ names,
      Text.lowercase a = Text.lowercase b → a = b := by
  -- The names seen so far stand for all names before, up to repetition.
  induction names generalizing seen with
  | nil => simpa [collisions] using hseen
  | cons name names ih =>
      rw [collisions]
      split
      next other hfind =>
        have hother : other ∈ seen := List.mem_of_find?_eq_some hfind
        have hlower : Text.lowercase other = Text.lowercase name := by
          simpa using List.find?_some hfind
        split
        next heq =>
          subst heq
          have hmem : ∀ a, a ∈ seen ++ other :: names ↔ a ∈ seen ++ names := by
            intro a
            simp only [List.mem_append, List.mem_cons]
            constructor
            · rintro (h | rfl | h)
              · exact .inl h
              · exact .inl hother
              · exact .inr h
            · exact Or.imp_right .inr
          simp only [ih hseen, hmem]
        next hne =>
          refine iff_of_false (by simp) fun h => hne ?_
          exact h other (List.mem_append_left _ hother) name (by simp) hlower
      next hfind =>
        have hnew : ∀ a ∈ seen, Text.lowercase a ≠ Text.lowercase name := by simpa using hfind
        have hseen' : ∀ a ∈ seen ++ [name], ∀ b ∈ seen ++ [name],
            Text.lowercase a = Text.lowercase b → a = b := by
          simp only [List.mem_append, List.mem_singleton]
          rintro a (ha | rfl) b (hb | rfl) hlower
          · exact hseen a ha b hb hlower
          · exact absurd hlower (hnew a ha)
          · exact absurd hlower.symm (hnew b hb)
          · rfl
        rw [ih hseen', List.append_assoc, List.singleton_append]

theorem severity_of_mem_collisions {entity : String} {seen names : List String}
    {diagnostic : Diagnostic} (h : diagnostic ∈ collisions entity seen names) :
    diagnostic.severity = .warning := by
  induction names generalizing seen with
  | nil => cases h
  | cons name names ih =>
      rw [collisions] at h
      split at h
      · split at h
        · exact ih h
        · rcases List.mem_cons.mp h with rfl | h
          · rfl
          · exact ih h
      · exact ih h

end Validation

namespace Descriptor

open Validation

/-- The findings of the three checks, one after another. -/
theorem validate_lenient (d : Descriptor) : d.validate false =
    d.mapped.flatMap (invalidNames.property d) ++ d.mapped.flatMap (reserved.property d) ++
      collisions d.name [] (d.mapped.map (·.fieldName)) := by
  simp [validate, diagnose, builtin, runCheck, invalidNames, reserved, caseCollisions]

/-- What the checks find is a warning. -/
theorem severity_of_mem_validate {d : Descriptor} {diagnostic : Diagnostic}
    (h : diagnostic ∈ d.validate false) : diagnostic.severity = .warning := by
  simp only [validate_lenient, List.mem_append, List.mem_flatMap, invalidNames, List.mem_map] at h
  rcases h with (⟨p, -, name, -, rfl⟩ | ⟨p, -, h⟩) | h
  · rfl
  · rw [reserved] at h
    dsimp only at h
    split at h
    · rw [List.mem_singleton.mp h]
    · cases h
  · exact severity_of_mem_collisions h

/-- The checks find nothing in names that are valid, not reserved and distinct in lower case. -/
theorem validate_eq_nil_iff {d : Descriptor} : d.validate false = [] ↔
    (∀ p ∈ d.mapped, ∀ name ∈ indexedNames p, isValidName name = true) ∧
    (∀ p ∈ d.mapped, p.fieldName ∉ reservedNames) ∧
    ∀ p ∈ d.mapped, ∀ q ∈ d.mapped, Text.lowercase p.fieldName = Text.lowercase q.fieldName →
      p.fieldName = q.fieldName := by
  have hcollisions : collisions d.name [] (d.mapped.map (·.fieldName)) = [] ↔
      ∀ a ∈ [] ++ d.mapped.map (·.fieldName), ∀ b ∈ [] ++ d.mapped.map (·.fieldName),
        Text.lowercase a = Text.lowercase b → a = b :=
    collisions_eq_nil_iff (by simp)
  simp only [List.nil_append, List.forall_mem_map] at hcollisions
  rw [validate_lenient, List.append_eq_nil_iff, List.append_eq_nil_iff, hcollisions, and_assoc]
  simp [invalidNames, reserved]

/-- Diagnostics stop a build in strict mode only. -/
theorem failOnError_validate_eq_ok_iff {d : Descriptor} {entity : String} {strict : Bool} :
    failOnError entity (d.validate strict) = .ok () ↔ (strict = true → d.validate false = []) := by
  have hnone : failOnError entity (d.validate strict) = .ok () ↔
      ∀ diagnostic ∈ d.validate strict, diagnostic.isError = false := by
    rw [failOnError]
    split
    next diagnostic hfind =>
      refine iff_of_false (by simp) fun h => ?_
      have herror := List.find?_some hfind
      rw [h diagnostic (List.mem_of_find?_eq_some hfind)] at herror
      cases herror
    next hfind => simpa using hfind
  rw [hnone]
  cases strict with
  | false =>
      refine iff_of_true (fun diagnostic h => ?_) (by simp)
      rw [Diagnostic.isError, severity_of_mem_validate h]
      rfl
  | true =>
      have hpromote : d.validate true = (d.validate false).map .promote := rfl
      rw [hpromote]
      cases d.validate false with
      | nil => simp
      | cons diagnostic diagnostics => simp [Diagnostic.promote, Diagnostic.isError]

end Descriptor

end ObjectDocument
