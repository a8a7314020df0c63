import ObjectDocument.EntityType

/-!
# Embedded objects

An embedded object stands behind the reference of a type, and what it is shows only when it is asked
for as one of a type. Embedding an object wraps it into a handle. Copies of a handle share the
object, and two handles are equal only if they share it, however much their objects are alike.
-/

namespace ObjectDocument

/-- An object behind the reference of a type, with something for each of its fields. -/
structure Embedded (α : Type) where
  reference : EntityRef
  /-- The type of the object itself. -/
  type : EntityRef
  fields : List α

namespace Embedded

variable {α : Type}

/-- Embed an object, behind the reference of its own type. -/
def of (type : EntityRef) (fields : List α) : Embedded α :=
  ⟨type, type, fields⟩

/-- The fields of an object that is asked for as one of a type, which it has to be. -/
def downcast (e : Embedded α) (expected : EntityRef) : Except Error (List α) :=
  if e.type = expected then .ok e.fields
  else .error (.unexpectedType expected.typeName e.reference.typeName)

/-- An embedded object can be asked for as one of the type that its reference names. -/
@[simp]
theorem downcast_of (type : EntityRef) (fields : List α) :
    (of type fields).downcast type = .ok fields :=
  if_pos rfl

end Embedded

/-- A handle on an embedded object. -/
structure Handle extends Embedded Datum where
  /-- The number of the wrapping that made the handle. -/
  mark : Nat

namespace Handle

/-- Wrap an object as the `mark`-th wrapping, with the number of the next one. -/
def wrap (mark : Nat) (type : EntityRef) (x : Instance) : Handle × Nat :=
  (⟨.of type x, mark⟩, mark + 1)

/-- Whether two handles share their object. -/
def same (g h : Handle) : Bool :=
  g.mark = h.mark

def kind (h : Handle) : Kind :=
  .entity h.reference

end Handle

end ObjectDocument
