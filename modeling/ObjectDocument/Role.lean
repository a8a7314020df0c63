/-!
# Roles and access

Some properties of an entity have a role besides holding a value: they identify the document, count
its versions, or place it in a relation. Access says whether a property travels in document bodies.
-/

namespace ObjectDocument

/-- A role that is declared by name. -/
inductive DeclaredRole where
  | id
  | version
deriving DecidableEq, Repr

/-- The role of a property in its entity. -/
inductive Role where
  | plain
  | id
  | version
  | sequenceToken
  | join
deriving DecidableEq, Repr

def Role.name : Role → String
  | plain => "a plain property"
  | id => "an identifier"
  | version => "a version"
  | sequenceToken => "a seq_no/primary_term"
  | join => "a join field"

/-- Whether the engine keeps the value beside the body of the document. -/
def Role.isOutOfBand : Role → Bool
  | version | sequenceToken => true
  | _ => false

/-- Whether a property travels in document bodies. -/
inductive Access where
  | readWrite
  /-- Read from documents but never written. -/
  | readOnly
  /-- Written to documents but never read. -/
  | writeOnly
  /-- Neither read nor written. -/
  | transient
deriving DecidableEq, Repr

namespace Access

def reads : Access → Bool
  | readWrite | readOnly => true
  | _ => false

def writes : Access → Bool
  | readWrite | writeOnly => true
  | _ => false

end Access

end ObjectDocument
