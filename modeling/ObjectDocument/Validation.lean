import ObjectDocument.Descriptor.Basic
import ObjectDocument.Text.LetterCase
import ObjectDocument.Text.Split

/-!
# Validation of field names

A validation runs checks over the mapped properties of a descriptor. The checks of this library
report names that the search engine does not take, names that it reserves, and names that differ
only in case. In strict mode every diagnostic is an error.
-/

namespace ObjectDocument

/-- A check of field names, for each mapped property and for the whole entity. -/
structure Check where
  property : Descriptor → Property → List Diagnostic := fun _ _ => []
  entity : Descriptor → List Diagnostic := fun _ => []

namespace Validation

/-- The fields that the engine manages itself. -/
def reservedNames : List String :=
  ["_id", "_index", "_source", "_routing", "_version", "_seq_no", "_primary_term", "_field_names",
    "_ignored", "_meta", "_doc_count", "_tier", "_type"]

/-- Whether a name is one or more segments between dots, none of which is empty or holds white
space. -/
def isValidName (name : String) : Bool :=
  (Text.splitWhere (· == '.') name.toList).all fun segment =>
    !segment.isEmpty && segment.all fun c => !Text.isBlank c

/-- The names that a property has in the index: its own, and one for each inner field. -/
def indexedNames (p : Property) : List String :=
  p.fieldName :: p.spec.innerFields.map fun inner => p.fieldName ++ "." ++ inner.suffix

/-- The check for names that are not valid. -/
def invalidNames : Check where
  property d p :=
    ((indexedNames p).filter (!isValidName ·)).map fun name =>
      ⟨.warning, .invalidFieldName d.name p.name name⟩

def reserved : Check where
  property d p :=
    if reservedNames.contains p.fieldName then
      [⟨.warning, .reservedFieldName d.name p.name p.fieldName⟩]
    else []

/-- The collisions of names with earlier ones. Of the names with one lower-case form the first is
kept in `seen`, and each other name collides with it. -/
def collisions (entity : String) : (seen : List String) → List String → List Diagnostic
  | _, [] => []
  | seen, name :: names =>
    match seen.find? fun other => Text.lowercase other = Text.lowercase name with
    | some other =>
      if other = name then collisions entity seen names
      else ⟨.warning, .caseCollision entity name other⟩ :: collisions entity seen names
    | none => collisions entity (seen ++ [name]) names

/-- The check for names that differ only in case. -/
def caseCollisions : Check where
  entity d := collisions d.name [] (d.mapped.map (·.fieldName))

def builtin : List Check :=
  [invalidNames, reserved, caseCollisions]

end Validation

namespace Descriptor

def runCheck (d : Descriptor) (c : Check) : List Diagnostic :=
  d.mapped.flatMap (c.property d) ++ c.entity d

/-- The diagnostics of checks, in their order. -/
def diagnose (d : Descriptor) (checks : List Check) (strict : Bool) : List Diagnostic :=
  let found := checks.flatMap d.runCheck
  if strict then found.map .promote else found

/-- The diagnostics of the checks of this library. -/
def validate (d : Descriptor) (strict : Bool) : List Diagnostic :=
  d.diagnose Validation.builtin strict

end Descriptor

end ObjectDocument
