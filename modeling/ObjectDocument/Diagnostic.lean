import ObjectDocument.Text.Numeral

/-!
# Diagnostics

Findings about the field names of an entity. A finding is a warning, and in strict mode an error.
-/

namespace ObjectDocument

/-- How serious a diagnostic is. -/
inductive Severity where
  | warning
  | error
deriving DecidableEq, Repr

def Severity.letter : Severity → Char
  | warning => 'W'
  | error => 'E'

/-- What is wrong with a field name. -/
inductive Finding where
  | invalidFieldName (entity property name : String)
  | reservedFieldName (entity property name : String)
  | caseCollision (entity name other : String)
deriving DecidableEq, Repr

namespace Finding

def number : Finding → Nat
  | invalidFieldName .. => 1
  | reservedFieldName .. => 2
  | caseCollision .. => 3

def entity : Finding → String
  | invalidFieldName entity .. => entity
  | reservedFieldName entity .. => entity
  | caseCollision entity .. => entity

def message : Finding → String
  | invalidFieldName entity property name =>
    entity ++ "." ++ property ++ ": '" ++ name ++ "' is not a valid field name"
  | reservedFieldName entity property name =>
    entity ++ "." ++ property ++ ": '" ++ name ++ "' is a reserved metadata field"
  | caseCollision entity name other =>
    entity ++ ": field names '" ++ name ++ "' and '" ++ other ++ "' differ only in case"

end Finding

structure Diagnostic where
  severity : Severity
  finding : Finding
deriving DecidableEq, Repr

namespace Diagnostic

def promote (d : Diagnostic) : Diagnostic :=
  { d with severity := .error }

def isError (d : Diagnostic) : Bool :=
  d.severity = .error

def isWarning (d : Diagnostic) : Bool :=
  d.severity = .warning

/-- The text of a diagnostic: its severity and number, and the wording of the finding. -/
def display (d : Diagnostic) : String :=
  String.ofList (d.severity.letter :: Text.padded 3 d.finding.number) ++ " " ++ d.finding.message

end Diagnostic

end ObjectDocument
